import NetLagLab.CallRefinement
import NetLagLab.ProductionRoots

/-! The namespace and the links of the host as the kernel has them, shared with another process. That process takes the
fixed names whenever they are free and gives up its own objects again, between any two calls of the adapter; it never
touches what a Session has made, and it does nothing between an identity check and the deletion behind it. The kernel
gives an identity of the Session to no other object. -/

namespace NetLagLab.NetworkEnvironment

open ByteLines CallPrograms Relation

/-- A link, and the one that it is joined with. Indexes are those of a namespace, so a peer's index alone does not tell
which link it is. -/
structure HostLink where
  index : UInt32
  peerIndex : Option UInt32
  /-- The peer is in another namespace. -/
  peerAway : Bool
  deriving DecidableEq

/-- The link has its peer beside it, under the index. -/
def HostLink.Faces (link : HostLink) (peer : UInt32) : Prop := link.peerAway = false ∧ link.peerIndex = some peer

instance (link : HostLink) (peer : UInt32) : Decidable (link.Faces peer) := inferInstanceAs (Decidable (_ ∧ _))

/-- Which creation was commanded last, and what has been read behind it. -/
inductive Readback where
  | ofNamespace
  | ofVeth
  | ofPeer (host : LinkQuery)
  | closed
  deriving DecidableEq

/-- The objects under the fixed names. -/
structure HostObjects where
  namespaceName : Option NamespaceIdentity := none
  hostLink : Option HostLink := none
  appLink : Option HostLink := none
  /-- The peer's name in a namespace. -/
  placed : NamespaceIdentity → Option HostLink := fun _ => none
  /-- What the Session's own commands have made. -/
  createdNamespaces : List NamespaceIdentity := []
  createdLinks : List UInt32 := []
  readback : Readback := .closed

namespace HostObjects

/-- What is left in the namespaces without the peers of a link on the host. -/
def placedWithout (objects : HostObjects) (index : UInt32) (namespaceHandle : NamespaceIdentity) : Option HostLink :=
  (objects.placed namespaceHandle).filter fun peer => decide (peer.peerIndex ≠ some index)

/-! ### The other process -/

/-- A link of the other process is neither one of the Session's nor joined with one. -/
def Others (objects : HostObjects) (link : HostLink) : Prop :=
  link.index ∉ objects.createdLinks ∧ ∀ peer, link.Faces peer → peer ∉ objects.createdLinks

/-- A step of the other process, or the end of a pair with the namespace that one of its links is in. -/
inductive OtherMove : HostObjects → HostObjects → Prop
  | makesNamespace {objects : HostObjects} {identity : NamespaceIdentity} (free : objects.namespaceName = none)
      (other : identity ∉ objects.createdNamespaces) : OtherMove objects { objects with namespaceName := some identity }
  | dropsNamespace {objects : HostObjects} {identity : NamespaceIdentity}
      (held : objects.namespaceName = some identity) (other : identity ∉ objects.createdNamespaces) :
      OtherMove objects { objects with namespaceName := none }
  | makesHostLink {objects : HostObjects} {link : HostLink} (free : objects.hostLink = none)
      (other : objects.Others link) : OtherMove objects { objects with hostLink := some link }
  | dropsHostLink {objects : HostObjects} {link : HostLink} (held : objects.hostLink = some link)
      (other : objects.Others link) : OtherMove objects { objects with hostLink := none }
  | makesAppLink {objects : HostObjects} {link : HostLink} (free : objects.appLink = none)
      (other : objects.Others link) : OtherMove objects { objects with appLink := some link }
  | dropsAppLink {objects : HostObjects} {link : HostLink} (held : objects.appLink = some link)
      (other : objects.Others link) : OtherMove objects { objects with appLink := none }
  | collapses {objects : HostObjects} {link : HostLink} (held : objects.hostLink = some link)
      (away : link.peerAway = true) :
      OtherMove objects { objects with hostLink := none, placed := objects.placedWithout link.index }

/-! ### Commands -/

/-- What a command does when it takes effect. -/
inductive Effect (objects : HostObjects) : List Bytes → Option NamespaceIdentity → HostObjects → Prop
  | addsNamespace {identity : NamespaceIdentity} (free : objects.namespaceName = none) :
      Effect objects namespaceAddition none
        { objects with
          namespaceName := some identity
          placed := Function.update objects.placed identity none
          createdNamespaces := identity :: objects.createdNamespaces }
  | deletesNamespace {identity : NamespaceIdentity} (held : objects.namespaceName = some identity) :
      Effect objects namespaceDeletion none { objects with namespaceName := none }
  | addsVeth {host app : UInt32} (freeHost : objects.hostLink = none) (freeApp : objects.appLink = none) :
      Effect objects vethAddition none
        { objects with
          hostLink := some ⟨host, some app, false⟩
          appLink := some ⟨app, some host, false⟩
          createdLinks := host :: app :: objects.createdLinks }
  | deletesVeth {link : HostLink} (held : objects.hostLink = some link) :
      Effect objects vethDeletion none
        { objects with
          hostLink := none
          appLink := objects.appLink.filter fun peer => decide (¬ peer.Faces link.index)
          placed := objects.placedWithout link.index }
  | movesPeer {namespaceFile : Bytes} {namespaceHandle : NamespaceIdentity} {link : HostLink} {index : UInt32}
      (held : objects.appLink = some link) (free : objects.placed namespaceHandle = none) :
      Effect objects (peerMove namespaceFile) (some namespaceHandle)
        { objects with
          hostLink := objects.hostLink.map fun host =>
            if link.Faces host.index then { host with peerIndex := some index, peerAway := true } else host
          appLink := none
          placed := Function.update objects.placed namespaceHandle (some ⟨index, link.peerIndex, true⟩) }

/-- The creation whose outcome is read next. -/
def readbackOf (arguments : List Bytes) : Readback :=
  if arguments = namespaceAddition then .ofNamespace
  else if arguments = vethAddition then .ofVeth
  else .closed

/-- A query shows a link as the kernel has it, or it fails. -/
def ShowsLink (query : LinkQuery) (link : Option HostLink) : Prop :=
  (query.status = .absent → link = none) ∧
    ∀ identity, query.status = .present → query.identity = some identity →
      link = some ⟨identity.index, some identity.peerIndex, identity.peerNamespaceId.isSome⟩

def ShowsNamespace (query : NamespaceQuery) (identity : Option NamespaceIdentity) : Prop :=
  (query.status = .absent → identity = none) ∧ ∀ found, foundNamespace query = some found → identity = some found

/-- The link that a query on the host is about. -/
def linkNamed (objects : HostObjects) (name : Bytes) : Option HostLink :=
  if name = nllHost then objects.hostLink else if name = nllApp then objects.appLink else none

/-- How the calls may be answered: a command that says that it has worked has taken effect, and one that does not may
have. -/
def Answers : Environment RootCall RootAnswer HostObjects := fun before request answer after =>
  match request, answer with
  | .queryNamespace, query =>
      ShowsNamespace query before.namespaceName ∧ after = { before with readback := .closed }
  | .runIp _ arguments inheritedNamespace _, result =>
      ∃ middle,
        (Effect before arguments inheritedNamespace middle ∨
          CommandResult.kind result ≠ .success ∧ middle = before) ∧
        after = { middle with readback := readbackOf arguments }
  | .shaping (.queryHostLink name _), query =>
      ShowsLink query (before.linkNamed name) ∧
        after = { before with
          readback := if name = nllHost ∧ before.readback = .ofVeth then .ofPeer query else .closed }
  | .shaping (.queryNamespaceLink namespaceHandle _ _), query =>
      ShowsLink query (before.placed namespaceHandle) ∧ after = { before with readback := .closed }
  | _, _ => after = { before with readback := .closed }

/-- The deletions, which come right behind an identity check. -/
def deletes : RootCall → Bool
  | .runIp _ arguments _ _ => decide (arguments = namespaceDeletion) || decide (arguments = vethDeletion)
  | _ => false

/-- Between two calls the other process does what it may, but not before a deletion. -/
def environment : Environment RootCall RootAnswer HostObjects := fun before request answer after =>
  if deletes request then Answers before request answer after
  else interleaved OtherMove Answers before request answer after

/-! ### What is asked of a step -/

/-- A deletion takes away nothing that the Session has not made. -/
def Harmless : Step RootCall RootAnswer HostObjects → Prop
  | ⟨before, .runIp _ arguments _ _, _, _⟩ =>
      (arguments = namespaceDeletion → ∀ identity ∈ before.namespaceName, identity ∈ before.createdNamespaces) ∧
        (arguments = vethDeletion → ∀ link ∈ before.hostLink, link.index ∈ before.createdLinks)
  | _ => True

/-- The readback behind a creation finds an object of the other process: its namespace, or a pair of its links. -/
def Adopts : Step RootCall RootAnswer HostObjects → Prop
  | ⟨before, .queryNamespace, query, after⟩ =>
      before.readback = .ofNamespace ∧ ∃ identity ∈ foundNamespace query, identity ∉ after.createdNamespaces
  | ⟨before, .shaping (.queryHostLink _ _), session, after⟩ =>
      match before.readback with
      | .ofPeer host => ∃ pair ∈ foundPair host session, pair.host.index ∉ after.createdLinks
      | _ => False
  | _ => False

end HostObjects

end NetLagLab.NetworkEnvironment
