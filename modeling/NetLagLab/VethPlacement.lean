import NetLagLab.Shaping

/-! The placement of the peer in the namespace. `ip` is told to move it, and what has become of the pair is read back
from three places: both names on the host, and the peer's name in the namespace. -/

namespace NetLagLab.NetworkEnvironment

open ByteLines CallPrograms CallPrograms.Program

/-! ### Calls -/

inductive PlacementCall where
  | namespaceFileArgument (namespaceHandle : NamespaceIdentity)
  | runIp (path : Bytes) (arguments : List Bytes) (inheritedNamespace : Option NamespaceIdentity) (deadline : TimePoint)
  | queryHostLink (name : Bytes) (deadline : TimePoint)
  | queryNamespaceLink (namespaceHandle : NamespaceIdentity) (name : Bytes) (deadline : TimePoint)
  deriving DecidableEq

abbrev PlacementAnswer : PlacementCall → Type
  | .namespaceFileArgument _ => Bytes
  | .runIp _ _ _ _ => CommandResult
  | .queryHostLink _ _ => LinkQuery
  | .queryNamespaceLink _ _ _ => LinkQuery

/-- One call. -/
abbrev askPlacement (request : PlacementCall) : Program PlacementCall PlacementAnswer (PlacementAnswer request) :=
  perform request

/-! ### move_peer -/

def proofMatches (proof : HostVethProof) (host session : LinkQuery) : Bool :=
  match host.identity, session.identity with
  | some hostLink, some sessionLink =>
      decide (proof.identity.host = hostLink) && decide (proof.identity.session = sessionLink)
  | _, _ => false

/-- What `move_peer` makes of the command and of the three links. -/
def placement (proof : HostVethProof) (command : CommandResult) (host oldSession placedSession : LinkQuery) :
    MutationResult ProvenVeth :=
  match validPlacedPair host oldSession placedSession, identityPair host placedSession with
  | true, some pair => ⟨decide (command.kind = .success), commandCause command, .proven (.placed ⟨pair⟩)⟩
  | _, _ =>
      if validHostPair host oldSession && decide (placedSession.status = .absent)
          && proofMatches proof host oldSession then
        ⟨false, if command.kind = .success then .identityMismatch else commandCause command, .proven (.host proof)⟩
      else
        ⟨false,
          if allAbsent [host, oldSession, placedSession] = true ∧ command.kind ≠ .success then commandCause command
          else .identityUnavailable,
          if host.status ≠ .absent ∨ oldSession.status ≠ .absent ∨ placedSession.status ≠ .absent then
            .identityUnconfirmed
          else .absent⟩

def movePeer (ipPath : Bytes) (namespaceProof : NamespaceProof) (proof : HostVethProof) (deadline : TimePoint) :
    Program PlacementCall PlacementAnswer (MutationResult ProvenVeth) := do
  let namespaceFile ← askPlacement (.namespaceFileArgument namespaceProof.exactHandle)
  let arguments := [ascii "link", ascii "set", ascii "dev", nllApp, ascii "netns", namespaceFile]
  let command ← askPlacement (.runIp ipPath arguments (some namespaceProof.exactHandle) deadline)
  let host ← askPlacement (.queryHostLink nllHost deadline)
  let oldSession ← askPlacement (.queryHostLink nllApp deadline)
  let placedSession ← askPlacement (.queryNamespaceLink namespaceProof.exactHandle nllApp deadline)
  return placement proof command host oldSession placedSession

/-- The calls of `move_peer`, with their answers. -/
def placementTrace (ipPath : Bytes) (namespaceProof : NamespaceProof) (deadline : TimePoint) (namespaceFile : Bytes)
    (command : CommandResult) (host oldSession placedSession : LinkQuery) : List (Event PlacementCall PlacementAnswer) :=
  [⟨.namespaceFileArgument namespaceProof.exactHandle, namespaceFile⟩,
    ⟨.runIp ipPath [ascii "link", ascii "set", ascii "dev", nllApp, ascii "netns", namespaceFile]
      (some namespaceProof.exactHandle) deadline, command⟩,
    ⟨.queryHostLink nllHost deadline, host⟩,
    ⟨.queryHostLink nllApp deadline, oldSession⟩,
    ⟨.queryNamespaceLink namespaceProof.exactHandle nllApp deadline, placedSession⟩]

section Placement

variable {ipPath : Bytes} {namespaceProof : NamespaceProof} {proof : HostVethProof} {deadline : TimePoint}
  {trace : List (Event PlacementCall PlacementAnswer)} {result : MutationResult ProvenVeth}
  {command : CommandResult} {host oldSession placedSession : LinkQuery}

theorem run_movePeer : Run (movePeer ipPath namespaceProof proof deadline) trace result ↔
    ∃ namespaceFile command host oldSession placedSession,
      trace = placementTrace ipPath namespaceProof deadline namespaceFile command host oldSession placedSession ∧
      result = placement proof command host oldSession placedSession := by
  constructor
  · intro h
    obtain ⟨namespaceFile, afterFile, rfl, hfile⟩ := run_call.mp h
    obtain ⟨command, afterCommand, rfl, hcommand⟩ := run_call.mp hfile
    obtain ⟨host, afterHost, rfl, hhost⟩ := run_call.mp hcommand
    obtain ⟨oldSession, afterOld, rfl, hold⟩ := run_call.mp hhost
    obtain ⟨placedSession, afterPlaced, rfl, hplaced⟩ := run_call.mp hold
    obtain ⟨rfl, rfl⟩ := run_done.mp hplaced
    exact ⟨namespaceFile, command, host, oldSession, placedSession, rfl, rfl⟩
  · rintro ⟨namespaceFile, command, host, oldSession, placedSession, rfl, rfl⟩
    exact .call _ (.call _ (.call _ (.call _ (.call _ (.done _)))))

/-- A placed pair has both of its links. -/
theorem identityPair_of_validPlacedPair (h : validPlacedPair host oldSession placedSession = true) :
    ∃ hostLink sessionLink, host.identity = some hostLink ∧
      identityPair host placedSession = some ⟨hostLink, sessionLink⟩ := by
  rw [validPlacedPair, Bool.and_eq_true] at h
  unfold identityPair
  cases hhost : host.identity with
  | none => rw [hhost] at h; exact nomatch h.2
  | some hostLink =>
      cases hsession : placedSession.identity with
      | none => rw [hhost, hsession] at h; exact nomatch h.2
      | some sessionLink => exact ⟨hostLink, sessionLink, rfl, rfl⟩

theorem placement_of_placed (proof : HostVethProof) (command : CommandResult)
    (h : validPlacedPair host oldSession placedSession = true) :
    ∃ hostLink sessionLink, host.identity = some hostLink ∧
      (placement proof command host oldSession placedSession).state = .proven (.placed ⟨⟨hostLink, sessionLink⟩⟩) := by
  obtain ⟨hostLink, sessionLink, hhost, hpair⟩ := identityPair_of_validPlacedPair h
  refine ⟨hostLink, sessionLink, hhost, ?_⟩
  rw [placement, h, hpair]

/-- Links that are no placed pair: the pair on the host that was passed in, something else, or nothing at all. -/
theorem placement_of_not_placed (proof : HostVethProof) (command : CommandResult)
    (h : validPlacedPair host oldSession placedSession = false) :
    (placement proof command host oldSession placedSession).state = .proven (.host proof) ∨
    (placement proof command host oldSession placedSession).state = .identityUnconfirmed ∨
    ((placement proof command host oldSession placedSession).state = .absent ∧
      host.status = .absent ∧ oldSession.status = .absent ∧ placedSession.status = .absent) := by
  rw [placement, h]
  dsimp only
  split
  · exact .inl rfl
  · by_cases hleft : host.status ≠ .absent ∨ oldSession.status ≠ .absent ∨ placedSession.status ≠ .absent
    · exact .inr (.inl (if_pos hleft))
    · refine .inr (.inr ⟨if_neg hleft, ?_⟩)
      simpa only [not_or, not_not] using hleft

/-- The proof that comes back is about the pair that was passed in. -/
structure KeepsPair (proof : HostVethProof) (host oldSession placedSession : LinkQuery) (state : VethState) : Prop where
  placed : ∀ placed, state = .proven (.placed placed) → placed.identity.host.index = proof.identity.host.index
  unplaced : ∀ unplaced, state = .proven (.host unplaced) → unplaced = proof
  absent : state = .absent → host.status = .absent ∧ oldSession.status = .absent ∧ placedSession.status = .absent

/-- The proof is kept unless a placed pair is seen whose host link is another one: the placed pair is taken from the
links alone. -/
theorem movePeer_keepsProof (h : Run (movePeer ipPath namespaceProof proof deadline) trace result) :
    ∃ namespaceFile command host oldSession placedSession,
      trace = placementTrace ipPath namespaceProof deadline namespaceFile command host oldSession placedSession ∧
      (KeepsPair proof host oldSession placedSession result.state ↔
        (validPlacedPair host oldSession placedSession = true →
          host.identity.map LinkIdentity.index = some proof.identity.host.index)) := by
  obtain ⟨namespaceFile, command, host, oldSession, placedSession, htrace, rfl⟩ := run_movePeer.mp h
  refine ⟨namespaceFile, command, host, oldSession, placedSession, htrace, ?_⟩
  cases hplaced : validPlacedPair host oldSession placedSession with
  | true =>
      obtain ⟨hostLink, sessionLink, hhost, hstate⟩ := placement_of_placed proof command hplaced
      rw [hstate, hhost]
      constructor
      · exact fun hkeeps _ => congrArg some (hkeeps.placed _ rfl)
      · intro hindex
        refine ⟨fun placed heq => ?_, (fun _ heq => nomatch heq), fun heq => nomatch heq⟩
        cases heq
        exact Option.some.inj (hindex rfl)
  | false =>
      refine ⟨(fun _ hfalse => nomatch hfalse), fun _ => ?_⟩
      rcases placement_of_not_placed proof command hplaced with
        hstate | hstate | ⟨hstate, habsent⟩ <;> rw [hstate]
      · exact ⟨(fun _ heq => nomatch heq), (fun unplaced heq => by cases heq; rfl), fun heq => nomatch heq⟩
      · exact ⟨(fun _ heq => nomatch heq), (fun _ heq => nomatch heq), fun heq => nomatch heq⟩
      · exact ⟨(fun _ heq => nomatch heq), (fun _ heq => nomatch heq), fun _ => habsent⟩

end Placement

/-- The pair that was created: links 2 and 3. -/
def createdPair : HostVethProof := ⟨⟨⟨2, 3, none⟩, ⟨3, 2, none⟩⟩⟩

theorem movePeer_keepsProof_created :
    KeepsPair createdPair ⟨.present, some ⟨2, 3, some 0⟩⟩ ⟨.absent, none⟩ ⟨.present, some ⟨3, 2, some 0⟩⟩
      (.proven (.placed ⟨⟨⟨2, 3, some 0⟩, ⟨3, 2, some 0⟩⟩⟩)) := by
  have hrun : Run (movePeer (ascii "/sbin/ip") ⟨⟨4, 5⟩⟩ createdPair 9)
      (placementTrace (ascii "/sbin/ip") ⟨⟨4, 5⟩⟩ 9 (ascii "/proc/self/fd/6") { kind := .success }
        ⟨.present, some ⟨2, 3, some 0⟩⟩ ⟨.absent, none⟩ ⟨.present, some ⟨3, 2, some 0⟩⟩)
      ⟨true, .systemFailure, .proven (.placed ⟨⟨⟨2, 3, some 0⟩, ⟨3, 2, some 0⟩⟩⟩)⟩ :=
    run_movePeer.mpr ⟨_, _, _, _, _, rfl, rfl⟩
  obtain ⟨namespaceFile, command, host, oldSession, placedSession, htrace, hkeeps⟩ := movePeer_keepsProof hrun
  cases htrace
  exact hkeeps.mpr fun _ => rfl

/-- The pair was removed and another was put in its place, with its peer in the namespace. -/
theorem not_movePeer_keepsProof :
    ¬ ∀ proof command host oldSession placedSession, KeepsPair proof host oldSession placedSession
      (placement proof command host oldSession placedSession).state := by
  intro h
  have hkeeps := h createdPair { kind := .nonzeroExit } ⟨.present, some ⟨7, 8, some 0⟩⟩ ⟨.absent, none⟩
    ⟨.present, some ⟨8, 7, some 0⟩⟩
  exact absurd (hkeeps.placed ⟨⟨⟨7, 8, some 0⟩, ⟨8, 7, some 0⟩⟩⟩ rfl) (by decide)

end NetLagLab.NetworkEnvironment
