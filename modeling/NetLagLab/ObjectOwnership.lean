import NetLagLab.HostObjects

/-! What the Session deletes. As long as no readback behind a creation takes an object of the other process for the
Session's own, every proof in the ledger is about an object that the Session has made, and so is every deletion. -/

namespace NetLagLab.NetworkEnvironment

open ByteLines CallPrograms CallPrograms.Program Relation

namespace HostObjects

/-! ### The objects between two calls -/

/-- A link that faces a link of the Session is one, and its pair is whole. -/
structure Inv (objects : HostObjects) : Prop where
  joined : ∀ link peer, objects.appLink = some link → link.Faces peer → peer ∈ objects.createdLinks →
    link.index ∈ objects.createdLinks ∧ ∃ host, objects.hostLink = some host ∧ host.index = peer ∧ host.peerAway = false
  placed : ∀ namespaceHandle ∈ objects.createdNamespaces, ∀ link, objects.placed namespaceHandle = some link →
    ∃ peer ∈ objects.createdLinks, link.peerIndex = some peer ∧ ∃ host, objects.hostLink = some host ∧ host.index = peer

/-- The peer of the Session's pair stands on the host. -/
def Paired (objects : HostObjects) : Prop :=
  ∃ link peer, objects.appLink = some link ∧ link.index ∈ objects.createdLinks ∧ link.Faces peer ∧
    peer ∈ objects.createdLinks

/-- What the Session has made stays on record. -/
def Within (before after : HostObjects) : Prop :=
  before.createdNamespaces ⊆ after.createdNamespaces ∧ before.createdLinks ⊆ after.createdLinks

section Steps

variable {objects before middle after : HostObjects} {request : RootCall} {answer : RootAnswer request}

theorem Within.trans (h : Within before middle) (h' : Within middle after) : Within before after :=
  ⟨List.Subset.trans h.1 h'.1, List.Subset.trans h.2 h'.2⟩

theorem inv_of_untouched (hnamespaces : objects.createdNamespaces = []) (hlinks : objects.createdLinks = []) :
    objects.Inv where
  joined := by
    intro link peer _ _ hpeer
    rw [hlinks] at hpeer
    cases hpeer
  placed := by
    intro namespaceHandle hcreated
    rw [hnamespaces] at hcreated
    cases hcreated

theorem readbackOf_namespaceAddition : readbackOf namespaceAddition = .ofNamespace := if_pos rfl

theorem readbackOf_vethAddition : readbackOf vethAddition = .ofVeth := by decide

theorem OtherMove.created (h : OtherMove before after) :
    after.createdNamespaces = before.createdNamespaces ∧ after.createdLinks = before.createdLinks ∧
      after.readback = before.readback := by
  cases h <;> exact ⟨rfl, rfl, rfl⟩

theorem mem_placedWithout {index : UInt32} {namespaceHandle : NamespaceIdentity} {link : HostLink}
    (h : objects.placedWithout index namespaceHandle = some link) :
    objects.placed namespaceHandle = some link ∧ link.peerIndex ≠ some index := by
  obtain ⟨hplaced, hkept⟩ := Option.filter_eq_some_iff.mp h
  exact ⟨hplaced, of_decide_eq_true hkept⟩

/-- A host link goes, with its peers in the namespaces. -/
theorem Inv.placed_of_gone {link : HostLink} (h : objects.Inv)
    (held : objects.hostLink = some link) : ∀ namespaceHandle ∈ objects.createdNamespaces, ∀ peer,
      objects.placedWithout link.index namespaceHandle = some peer → False := by
  intro namespaceHandle hcreated peer hplaced
  obtain ⟨hplaced, hkept⟩ := mem_placedWithout hplaced
  obtain ⟨index, -, hjoined, other, hother, rfl⟩ := h.placed namespaceHandle hcreated peer hplaced
  obtain rfl := Option.some.inj (held.symm.trans hother)
  exact hkept hjoined

theorem OtherMove.inv (h : OtherMove before after) (hinv : before.Inv) : after.Inv := by
  cases h with
  | makesNamespace free other => exact ⟨hinv.joined, hinv.placed⟩
  | dropsNamespace held other => exact ⟨hinv.joined, hinv.placed⟩
  | makesHostLink free other =>
      refine ⟨fun link peer happ hfaces hpeer => ?_, fun namespaceHandle hcreated link hplaced => ?_⟩
      · obtain ⟨-, host, hhost, -⟩ := hinv.joined link peer happ hfaces hpeer
        rw [free] at hhost
        cases hhost
      · obtain ⟨-, -, -, host, hhost, -⟩ := hinv.placed namespaceHandle hcreated link hplaced
        rw [free] at hhost
        cases hhost
  | dropsHostLink held other =>
      refine ⟨fun link peer happ hfaces hpeer => ?_, fun namespaceHandle hcreated link hplaced => ?_⟩
      · obtain ⟨-, host, hhost, rfl, -⟩ := hinv.joined link peer happ hfaces hpeer
        obtain rfl := Option.some.inj (held.symm.trans hhost)
        exact absurd hpeer other.1
      · obtain ⟨peer, hpeer, -, host, hhost, rfl⟩ := hinv.placed namespaceHandle hcreated link hplaced
        obtain rfl := Option.some.inj (held.symm.trans hhost)
        exact absurd hpeer other.1
  | makesAppLink free other =>
      refine ⟨fun link peer happ hfaces hpeer => ?_, hinv.placed⟩
      obtain rfl := Option.some.inj happ
      exact absurd hpeer (other.2 peer hfaces)
  | dropsAppLink held other => exact ⟨(fun link peer happ => by cases happ), hinv.placed⟩
  | collapses held away =>
      refine ⟨fun link peer happ hfaces hpeer => ?_, fun namespaceHandle hcreated link hplaced =>
        (hinv.placed_of_gone held namespaceHandle hcreated link hplaced).elim⟩
      obtain ⟨-, host, hhost, -, hbeside⟩ := hinv.joined link peer happ hfaces hpeer
      obtain rfl := Option.some.inj (held.symm.trans hhost)
      rw [away] at hbeside
      cases hbeside

theorem OtherMove.paired (h : OtherMove before after) (hpaired : before.Paired) : after.Paired := by
  obtain ⟨link, peer, happ, hlink, hfaces, hpeer⟩ := hpaired
  cases h with
  | makesAppLink free other =>
      rw [free] at happ
      cases happ
  | dropsAppLink held other =>
      obtain rfl := Option.some.inj (held.symm.trans happ)
      exact absurd hlink other.1
  | _ => exact ⟨link, peer, happ, hlink, hfaces, hpeer⟩

theorem Effect.within {arguments : List Bytes} {inheritedNamespace : Option NamespaceIdentity}
    (h : Effect before arguments inheritedNamespace after) : Within before after := by
  cases h with
  | addsNamespace free => exact ⟨List.subset_cons_self _ _, List.Subset.refl _⟩
  | addsVeth freeHost freeApp =>
      exact ⟨List.Subset.refl _, List.Subset.trans (List.subset_cons_self _ _) (List.subset_cons_self _ _)⟩
  | _ => exact ⟨List.Subset.refl _, List.Subset.refl _⟩

/-- A peer is moved only where it is the Session's. -/
theorem Effect.inv {arguments : List Bytes} {inheritedNamespace : Option NamespaceIdentity}
    (h : Effect before arguments inheritedNamespace after) (hinv : before.Inv)
    (hpaired : ∀ namespaceFile, arguments = peerMove namespaceFile → before.Paired) : after.Inv := by
  cases h with
  | @addsNamespace identity free =>
      refine ⟨hinv.joined, fun namespaceHandle hcreated link hplaced => ?_⟩
      by_cases hsame : namespaceHandle = identity
      · rw [hsame] at hplaced
        dsimp only at hplaced
        rw [Function.update_self] at hplaced
        cases hplaced
      · dsimp only at hplaced
        rw [Function.update_of_ne hsame] at hplaced
        exact hinv.placed namespaceHandle ((List.mem_cons.mp hcreated).resolve_left hsame) link hplaced
  | deletesNamespace held => exact ⟨hinv.joined, hinv.placed⟩
  | @addsVeth host app freeHost freeApp =>
      refine ⟨fun link peer happ hfaces hpeer => ?_, fun namespaceHandle hcreated link hplaced => ?_⟩
      · obtain rfl := Option.some.inj happ
        obtain rfl := Option.some.inj hfaces.2
        exact ⟨List.mem_cons_of_mem _ List.mem_cons_self, _, rfl, rfl, rfl⟩
      · obtain ⟨-, -, -, other, hother, -⟩ := hinv.placed namespaceHandle hcreated link hplaced
        rw [freeHost] at hother
        cases hother
  | @deletesVeth host held =>
      refine ⟨fun link peer happ hfaces hpeer => ?_, fun namespaceHandle hcreated link hplaced =>
        (hinv.placed_of_gone held namespaceHandle hcreated link hplaced).elim⟩
      obtain ⟨happ, hkept⟩ := Option.filter_eq_some_iff.mp happ
      obtain ⟨-, other, hother, rfl, -⟩ := hinv.joined link peer happ hfaces hpeer
      obtain rfl := Option.some.inj (held.symm.trans hother)
      exact absurd hfaces (of_decide_eq_true hkept)
  | @movesPeer namespaceFile target moved index held free =>
      obtain ⟨own, peer, happ, -, hfaces, hpeer⟩ := hpaired namespaceFile rfl
      obtain rfl := Option.some.inj (held.symm.trans happ)
      obtain ⟨-, host, hhost, rfl, -⟩ := hinv.joined moved peer held hfaces hpeer
      have hleft : before.hostLink.map (fun link =>
          if moved.Faces link.index then { link with peerIndex := some index, peerAway := true } else link) =
          some { host with peerIndex := some index, peerAway := true } := by
        rw [hhost, Option.map_some, if_pos hfaces]
      refine ⟨(fun link peer happ => by cases happ), fun namespaceHandle hcreated link hplaced => ?_⟩
      by_cases hsame : namespaceHandle = target
      · rw [hsame] at hplaced
        dsimp only at hplaced
        rw [Function.update_self] at hplaced
        obtain rfl := Option.some.inj hplaced
        exact ⟨host.index, hpeer, hfaces.2, _, hleft, rfl⟩
      · dsimp only at hplaced
        rw [Function.update_of_ne hsame] at hplaced
        obtain ⟨other, hother, hjoined, still, hstill, rfl⟩ := hinv.placed namespaceHandle hcreated link hplaced
        obtain rfl := Option.some.inj (hhost.symm.trans hstill)
        exact ⟨host.index, hother, hjoined, _, hleft, rfl⟩

/-- A command on a peer that is moved. -/
def MovesPeer : RootCall → Prop
  | .runIp _ arguments _ _ => ∃ namespaceFile, arguments = peerMove namespaceFile
  | _ => False

theorem answers_inv (h : Answers before request answer after) (hinv : before.Inv)
    (hpaired : MovesPeer request → before.Paired) : after.Inv ∧ Within before after := by
  have hrefl : Within before before := ⟨List.Subset.refl _, List.Subset.refl _⟩
  cases request with
  | runIp path arguments inheritedNamespace deadline =>
      obtain ⟨middle, heffect | ⟨-, rfl⟩, rfl⟩ := h
      · have hmiddle := heffect.inv hinv fun namespaceFile hmove => hpaired ⟨namespaceFile, hmove⟩
        exact ⟨⟨hmiddle.joined, hmiddle.placed⟩, heffect.within⟩
      · exact ⟨⟨hinv.joined, hinv.placed⟩, hrefl⟩
  | queryNamespace =>
      obtain ⟨-, rfl⟩ := h
      exact ⟨⟨hinv.joined, hinv.placed⟩, hrefl⟩
  | shaping request =>
      cases request with
      | queryHostLink name deadline =>
          obtain ⟨-, rfl⟩ := h
          exact ⟨⟨hinv.joined, hinv.placed⟩, hrefl⟩
      | queryNamespaceLink namespaceHandle name deadline =>
          obtain ⟨-, rfl⟩ := h
          exact ⟨⟨hinv.joined, hinv.placed⟩, hrefl⟩
      | _ =>
          obtain rfl := h
          exact ⟨⟨hinv.joined, hinv.placed⟩, hrefl⟩
  | _ =>
      obtain rfl := h
      exact ⟨⟨hinv.joined, hinv.placed⟩, hrefl⟩

/-- What the other process leaves as it is. -/
theorem moves_keep (h : ReflTransGen OtherMove before after) (hinv : before.Inv) :
    after.Inv ∧ Within before after ∧ after.readback = before.readback ∧ (before.Paired → after.Paired) := by
  induction h with
  | refl => exact ⟨hinv, ⟨List.Subset.refl _, List.Subset.refl _⟩, rfl, id⟩
  | tail _ hmove ih =>
      obtain ⟨hinv, hwithin, hreadback, hpaired⟩ := ih
      obtain ⟨hnamespaces, hlinks, hsame⟩ := hmove.created
      refine ⟨hmove.inv hinv, ⟨?_, ?_⟩, hsame.trans hreadback, fun h => hmove.paired (hpaired h)⟩
      · rw [hnamespaces]
        exact hwithin.1
      · rw [hlinks]
        exact hwithin.2

/-- A call that deletes nothing: the other process moves, and then it is answered. -/
theorem exists_answered (h : environment before request answer after) (hrequest : deletes request = false)
    (hinv : before.Inv) : ∃ middle, middle.Inv ∧ Within before middle ∧ middle.readback = before.readback ∧
      (before.Paired → middle.Paired) ∧ Answers middle request answer after := by
  rw [environment, if_neg (by rw [hrequest]; decide)] at h
  obtain ⟨middle, hmoves, hanswers⟩ := h
  obtain ⟨hmiddle, hwithin, hreadback, hpaired⟩ := moves_keep hmoves hinv
  exact ⟨middle, hmiddle, hwithin, hreadback, hpaired, hanswers⟩

theorem harmless_of_not_deletes (hrequest : deletes request = false) : Harmless ⟨before, request, answer, after⟩ := by
  cases request with
  | runIp path arguments inheritedNamespace deadline =>
      rw [deletes, Bool.or_eq_false_iff, decide_eq_false_iff_not, decide_eq_false_iff_not] at hrequest
      exact ⟨fun hdeletes => absurd hdeletes hrequest.1, fun hdeletes => absurd hdeletes hrequest.2⟩
  | _ => trivial

end Steps

/-! ### The ledger -/

/-- No readback takes an object of the other process for the Session's own. -/
def careful : Environment RootCall RootAnswer HostObjects := fun before request answer after =>
  environment before request answer after ∧ ¬ Adopts ⟨before, request, answer, after⟩

def OwnsNamespace (objects : HostObjects) (root : NamespaceState) : Prop :=
  ∀ proof, root = .proven proof → proof.exactHandle ∈ objects.createdNamespaces

def OwnsVeth (objects : HostObjects) (root : VethState) : Prop :=
  ∀ proof, root = .proven proof → proof.identity.host.index ∈ objects.createdLinks

/-- Every proof in the ledger is about an object that the Session has made. -/
structure Kept (objects : HostObjects) (state : OwnerState) : Prop where
  inv : objects.Inv
  ownsNamespace : objects.OwnsNamespace state.namespaceRoot
  ownsVeth : objects.OwnsVeth state.vethRoot

section Ledger

variable {objects before middle after : HostObjects} {state : OwnerState} {α : Type} {post : α → HostObjects → Prop}
  {ipPath : Bytes} {deadline : TimePoint}

theorem Kept.within (h : before.Kept state) (hinv : after.Inv) (hwithin : Within before after) : after.Kept state :=
  ⟨hinv, fun proof hproof => hwithin.1 (h.ownsNamespace proof hproof), fun proof hproof =>
    hwithin.2 (h.ownsVeth proof hproof)⟩

/-- A call that deletes nothing, and moves no peer but the Session's. -/
theorem safe_call {request : RootCall} {next : RootAnswer request → RootProgram α} (h : objects.Kept state)
    (hdeletes : deletes request = false) (hmoves : MovesPeer request → objects.Paired)
    (hnext : ∀ middle answer after, middle.Inv → middle.readback = objects.readback →
      (objects.Paired → middle.Paired) → Answers middle request answer after →
      ¬ Adopts ⟨objects, request, answer, after⟩ → after.Kept state → Safe careful Harmless post (next answer) after) :
    Safe careful Harmless post (askRoot request >>= next) objects := by
  rintro answer after ⟨henvironment, hadopts⟩
  obtain ⟨middle, hmiddle, hwithin, hreadback, hpaired, hanswers⟩ := exists_answered henvironment hdeletes h.inv
  obtain ⟨hafter, hmore⟩ := answers_inv hanswers hmiddle fun hmove => hpaired (hmoves hmove)
  exact ⟨harmless_of_not_deletes hdeletes,
    hnext middle answer after hmiddle hreadback hpaired hanswers hadopts (h.within hafter (hwithin.trans hmore))⟩

/-- A deletion, right behind the check. -/
theorem safe_deletion {path : Bytes} {arguments : List Bytes} {next : CommandResult → RootProgram α}
    (h : objects.Kept state) (hdeletes : deletes (.runIp path arguments none deadline) = true)
    (hmoves : ¬ MovesPeer (.runIp path arguments none deadline))
    (hnamespace : arguments = namespaceDeletion → ∀ identity ∈ objects.namespaceName,
      identity ∈ objects.createdNamespaces)
    (hlink : arguments = vethDeletion → ∀ link ∈ objects.hostLink, link.index ∈ objects.createdLinks)
    (hnext : ∀ answer after, after.Kept state → Safe careful Harmless post (next answer) after) :
    Safe careful Harmless post (askRoot (.runIp path arguments none deadline) >>= next) objects := by
  rintro answer after ⟨henvironment, -⟩
  rw [environment, if_pos hdeletes] at henvironment
  obtain ⟨hafter, hwithin⟩ := answers_inv henvironment h.inv fun hmove => absurd hmove hmoves
  exact ⟨⟨hnamespace, hlink⟩, hnext answer after (h.within hafter hwithin)⟩

theorem not_movesPeer {path : Bytes} {arguments : List Bytes} (h : arguments.length ≠ 6) :
    ¬ MovesPeer (.runIp path arguments none deadline) := by
  rintro ⟨namespaceFile, rfl⟩
  exact h rfl

/-! ### The namespace -/

theorem safe_createNamespace (h : objects.Kept state) :
    Safe careful Harmless (fun result after => after.Kept { state with namespaceRoot := result.state })
      (createNamespace ipPath deadline) objects := by
  refine safe_call h rfl (fun hmove => absurd hmove (not_movesPeer (by decide)))
    fun middle command after _ _ _ hcommand _ hafter => ?_
  obtain ⟨between, -, rfl⟩ := hcommand
  refine safe_call hafter rfl False.elim fun middle query later _ _ _ hquery hadopts hlater => ?_
  refine ⟨hlater.inv, fun proof hproof => ?_, hlater.ownsVeth⟩
  dsimp only at hproof
  unfold createdNamespace at hproof
  split at hproof
  · rename_i handle hfound
    obtain rfl := Root.proven.inj hproof
    by_contra hother
    exact hadopts ⟨readbackOf_namespaceAddition, handle, hfound, hother⟩
  · dsimp only at hproof
    split at hproof <;> cases hproof

/-- Where nothing is proven nothing is owned. -/
theorem Kept.unproven {root : NamespaceState} (h : objects.Kept state) (hroot : ∀ proof, root ≠ .proven proof) :
    objects.Kept { state with namespaceRoot := root } :=
  ⟨h.inv, fun proof hproof => absurd hproof (hroot proof), h.ownsVeth⟩

theorem safe_removeNamespace {proof : NamespaceProof} (h : objects.Kept state)
    (hproof : state.namespaceRoot = .proven proof) :
    Safe careful Harmless (fun removal after => after.Kept { state with namespaceRoot := removal.state })
      (removeNamespace ipPath proof deadline) objects := by
  refine safe_call h rfl False.elim fun middle query after _ _ _ hquery _ hafter => ?_
  split
  · exact hafter.unproven fun other hother => by cases hother
  · split
    · rename_i handle hfound
      split
      · exact hafter.unproven fun other hother => by cases hother
      · rename_i hsame
        rw [not_not] at hsame
        obtain ⟨⟨-, hshows⟩, rfl⟩ := hquery
        refine safe_deletion hafter rfl (not_movesPeer (by decide)) (fun _ identity hidentity => ?_)
          (fun hother => absurd hother (by decide)) fun command later hlater => ?_
        · obtain rfl := Option.some.inj ((hshows handle hfound).symm.trans hidentity)
          rw [hsame]
          exact hafter.ownsNamespace proof hproof
        · refine safe_call hlater rfl False.elim fun middle left last _ _ _ _ _ hlast => ?_
          change last.Kept { state with namespaceRoot := (removedNamespace proof command left).state }
          unfold removedNamespace
          split
          · exact hlast.unproven fun other hother => by cases hother
          · split
            · exact ⟨hlast.inv, hproof ▸ hlast.ownsNamespace, hlast.ownsVeth⟩
            · exact hlast.unproven fun other hother => by cases hother
    · exact hafter.unproven fun other hother => by cases hother

/-! ### The veth pair -/

theorem foundPair_spec {host session : LinkQuery} {pair : VethIdentityPair} (h : foundPair host session = some pair) :
    session.identity = some pair.session ∧ session.status = .present ∧ pair.session.peerIndex = pair.host.index ∧
      pair.session.peerNamespaceId = none := by
  unfold foundPair at h
  split at h
  · rename_i hvalid
    unfold validHostPair at hvalid
    unfold identityPair at h
    cases hhost : host.identity with
    | none =>
        rw [hhost] at h
        cases h
    | some hostLink =>
        cases hsession : session.identity with
        | none =>
            rw [hhost, hsession] at h
            cases h
        | some sessionLink =>
            rw [hhost, hsession] at h hvalid
            obtain rfl := Option.some.inj h
            simp only [Bool.and_eq_true, decide_eq_true_eq, Option.isNone_iff_eq_none] at hvalid
            exact ⟨rfl, hvalid.1.2, hvalid.2.1.1.2, hvalid.2.2⟩
  · cases h

/-- A link under the peer's name that faces a link of the Session. -/
theorem Inv.faces {host session : LinkQuery} {pair : VethIdentityPair} (h : objects.Inv)
    (hfound : foundPair host session = some pair) (hshows : ShowsLink session objects.appLink)
    (hcreated : pair.host.index ∈ objects.createdLinks) :
    objects.Paired ∧ ∃ link, objects.hostLink = some link ∧ link.index = pair.host.index := by
  obtain ⟨hsession, hpresent, hpeer, hbeside⟩ := foundPair_spec hfound
  have happ := hshows.2 _ hpresent hsession
  have hfaces : HostLink.Faces ⟨pair.session.index, some pair.session.peerIndex, pair.session.peerNamespaceId.isSome⟩
      pair.host.index := ⟨by rw [hbeside]; rfl, congrArg some hpeer⟩
  obtain ⟨hindex, link, hlink, hhost, -⟩ := h.joined _ _ happ hfaces hcreated
  exact ⟨⟨_, _, happ, hindex, hfaces, hcreated⟩, link, hlink, hhost⟩

theorem safe_createVeth (h : objects.Kept state) :
    Safe careful Harmless (fun result after => after.Kept { state with vethRoot := result.state } ∧
      ∀ proof, result.state = .proven proof → after.Paired) (createVeth ipPath deadline) objects := by
  refine safe_call h rfl (fun hmove => absurd hmove (not_movesPeer (by decide)))
    fun middle command after _ _ _ hcommand _ hafter => ?_
  obtain ⟨between, -, rfl⟩ := hcommand
  refine safe_call hafter rfl False.elim fun middle host later _ hsame _ hhost _ hlater => ?_
  obtain ⟨-, rfl⟩ := hhost
  have hofVeth : middle.readback = .ofVeth := hsame.trans readbackOf_vethAddition
  refine safe_call hlater rfl False.elim fun last session final hlast _ _ hsession hadopts hfinal => ?_
  obtain ⟨hshows, rfl⟩ := hsession
  have hcreated : ∀ pair, foundPair host session = some pair → pair.host.index ∈ last.createdLinks := by
    intro pair hpair
    by_contra hother
    unfold Adopts at hadopts
    rw [if_pos ⟨rfl, hofVeth⟩] at hadopts
    exact hadopts ⟨pair, hpair, hother⟩
  refine ⟨⟨hfinal.inv, hfinal.ownsNamespace, fun proof hproof => ?_⟩, fun proof hproof => ?_⟩
  all_goals
    unfold createdVeth at hproof
    split at hproof
  · rename_i pair hpair
    obtain rfl := Root.proven.inj hproof
    exact hcreated pair hpair
  · dsimp only at hproof
    split at hproof <;> cases hproof
  · rename_i pair hpair
    exact (hlast.faces hpair hshows (hcreated pair hpair)).1
  · dsimp only at hproof
    split at hproof <;> cases hproof

theorem validPlacedPair_spec {host oldSession session : LinkQuery} {hostLink : LinkIdentity}
    (h : validPlacedPair host oldSession session = true) (hhost : host.identity = some hostLink) :
    ∃ sessionLink, session.identity = some sessionLink ∧ session.status = .present ∧
      sessionLink.peerIndex = hostLink.index := by
  unfold validPlacedPair at h
  rw [hhost] at h
  cases hsession : session.identity with
  | none =>
      rw [hsession, Bool.and_false] at h
      cases h
  | some sessionLink =>
      rw [hsession] at h
      simp only [Bool.and_eq_true, decide_eq_true_eq] at h
      exact ⟨sessionLink, rfl, h.1.2, h.2.1.1.2⟩

/-- A link that was placed in a namespace of the Session. -/
theorem Inv.facesPlaced {host oldSession session : LinkQuery} {hostLink : LinkIdentity}
    {namespaceHandle : NamespaceIdentity} (h : objects.Inv) (hvalid : validPlacedPair host oldSession session = true)
    (hhost : host.identity = some hostLink) (hshows : ShowsLink session (objects.placed namespaceHandle))
    (hcreated : namespaceHandle ∈ objects.createdNamespaces) :
    hostLink.index ∈ objects.createdLinks ∧ ∃ link, objects.hostLink = some link ∧ link.index = hostLink.index := by
  obtain ⟨sessionLink, hsession, hpresent, hpeer⟩ := validPlacedPair_spec hvalid hhost
  obtain ⟨peer, hmem, hjoined, hlink⟩ := h.placed namespaceHandle hcreated _ (hshows.2 _ hpresent hsession)
  obtain rfl := Option.some.inj hjoined
  rw [hpeer] at hmem hlink
  exact ⟨hmem, hlink⟩

/-- Where no pair is proven none is owned. -/
theorem Kept.unprovenVeth {root : VethState} (h : objects.Kept state) (hroot : ∀ proof, root ≠ .proven proof) :
    objects.Kept { state with vethRoot := root } :=
  ⟨h.inv, h.ownsNamespace, fun proof hproof => absurd hproof (hroot proof)⟩

theorem safe_movePeer {namespaceProof : NamespaceProof} {proof : HostVethProof} (h : objects.Kept state)
    (hpaired : objects.Paired) (hnamespace : state.namespaceRoot = .proven namespaceProof)
    (hveth : state.vethRoot = .proven (.host proof)) :
    Safe careful Harmless (fun result after => after.Kept { state with vethRoot := result.state })
      ((movePeer ipPath namespaceProof proof deadline).translate placementCall) objects := by
  refine safe_call h rfl False.elim fun middle namespaceFile after _ _ hfirst hfile _ hafter => ?_
  obtain rfl := hfile
  refine safe_call hafter rfl (fun _ => hfirst hpaired) fun _ command later _ _ _ _ _ hlater => ?_
  refine safe_call hlater rfl False.elim fun _ host _ _ _ _ _ _ hhost => ?_
  refine safe_call hhost rfl False.elim fun _ oldSession _ _ _ _ _ _ hold => ?_
  refine safe_call hold rfl False.elim fun last placedSession final hlast _ _ hplaced _ hfinal => ?_
  obtain ⟨hshows, rfl⟩ := hplaced
  change Kept _ { state with vethRoot := (placement proof command host oldSession placedSession).state }
  cases hvalid : validPlacedPair host oldSession placedSession with
  | true =>
      obtain ⟨hostLink, sessionLink, hidentity, hstate⟩ := placement_of_placed proof command hvalid
      have hcreated := (hlast.facesPlaced hvalid hidentity hshows (hfinal.ownsNamespace _ hnamespace)).1
      rw [hstate]
      refine ⟨hfinal.inv, hfinal.ownsNamespace, fun other hother => ?_⟩
      obtain rfl := Root.proven.inj hother
      exact hcreated
  | false =>
      rcases placement_of_not_placed proof command hvalid with hstate | hstate | ⟨hstate, -⟩ <;> rw [hstate]
      · exact ⟨hfinal.inv, hfinal.ownsNamespace, hveth ▸ hfinal.ownsVeth⟩
      · exact hfinal.unprovenVeth fun other hother => by cases hother
      · exact hfinal.unprovenVeth fun other hother => by cases hother

/-- What an observation shows of a pair of the Session: its host link stands under its name. -/
def Faces (objects : HostObjects) (observation : VethObservation) : Prop :=
  ∀ pair, observation.identity = some pair → pair.host.index ∈ objects.createdLinks →
    ∃ link, objects.hostLink = some link ∧ link.index = pair.host.index

theorem safe_observePlaced {placed : Option NamespaceIdentity} (h : objects.Kept state)
    (hplaced : ∀ namespaceHandle, placed = some namespaceHandle → ∃ proof, state.namespaceRoot = .proven proof ∧
      proof.exactHandle = namespaceHandle) :
    Safe careful Harmless (fun observation after => after.Kept state ∧ after.Faces observation)
      (observePlaced placed deadline) objects := by
  have hnone : ∀ {later : HostObjects} {observation : VethObservation}, observation.identity = none →
      later.Faces observation := fun hidentity pair hpair => by
    rw [hidentity] at hpair
    cases hpair
  refine safe_call h rfl False.elim fun _ host _ _ _ _ _ _ hhost => ?_
  refine safe_call hhost rfl False.elim fun middle hostSession after hmiddle _ _ hanswer _ hafter => ?_
  obtain ⟨hshows, rfl⟩ := hanswer
  cases placed with
  | none =>
      change Safe _ _ _ (Program.translate _ (if allAbsent [host, hostSession] then _ else if _ then _ else _)) _
      split
      · exact ⟨hafter, hnone rfl⟩
      · split
        · rename_i hvalid
          refine ⟨hafter, fun pair hpair hcreated => ?_⟩
          have hfound : foundPair host hostSession = some pair := by
            rw [foundPair, if_pos hvalid]
            exact hpair
          exact (hmiddle.faces hfound hshows hcreated).2
        · exact ⟨hafter, hnone rfl⟩
  | some namespaceHandle =>
      obtain ⟨proof, hproof, rfl⟩ := hplaced namespaceHandle rfl
      refine safe_call hafter rfl False.elim fun last session final hlast _ _ hsession _ hfinal => ?_
      obtain ⟨hshows, rfl⟩ := hsession
      change Safe _ _ _
        (Program.translate _ (if allAbsent [host, hostSession, session] then _ else if _ then _ else _)) _
      split
      · exact ⟨hfinal, hnone rfl⟩
      · split
        · rename_i hvalid
          refine ⟨hfinal, fun pair hpair _ => ?_⟩
          have hhost : host.identity = some pair.host := by
            change identityPair host session = some pair at hpair
            unfold identityPair at hpair
            split at hpair
            · rename_i hostLink sessionLink hhostLink hsessionLink
              obtain rfl := Option.some.inj hpair
              exact hhostLink
            · cases hpair
          exact (hlast.facesPlaced hvalid hhost hshows (hfinal.ownsNamespace proof hproof)).2
        · exact ⟨hfinal, hnone rfl⟩

theorem safe_removeObservedVeth {proof : ProvenVeth} {placed : Option NamespaceIdentity} (h : objects.Kept state)
    (hproof : state.vethRoot = .proven proof)
    (hplaced : ∀ namespaceHandle, placed = some namespaceHandle → ∃ proof, state.namespaceRoot = .proven proof ∧
      proof.exactHandle = namespaceHandle) :
    Safe careful Harmless (fun removal after => after.Kept { state with vethRoot := removal.state })
      (removeObservedVeth ipPath proof placed deadline) objects := by
  refine safe_bind ((safe_observePlaced h hplaced).imp ?_)
  rintro observation after ⟨hafter, hfaces⟩
  split
  · exact hafter.unprovenVeth fun other hother => by cases hother
  · split
    · exact hafter.unprovenVeth fun other hother => by cases hother
    · split
      · exact hafter.unprovenVeth fun other hother => by cases hother
      · rename_i hmatches
        rw [Bool.not_eq_true, Bool.not_eq_false', matchesProof, decide_eq_true_eq] at hmatches
        have hcreated := hafter.ownsVeth proof hproof
        refine safe_deletion hafter rfl (not_movesPeer (by decide)) (fun hother => absurd hother (by decide))
          (fun _ link hlink => ?_) fun command later hlater => ?_
        · obtain ⟨host, hhost, hindex⟩ := hfaces _ hmatches hcreated
          obtain rfl := Option.some.inj (hhost.symm.trans hlink)
          rw [hindex]
          exact hcreated
        · refine safe_bind ((safe_observePlaced hlater hplaced).imp ?_)
          rintro left last ⟨hlast, -⟩
          change last.Kept { state with vethRoot := (removedVeth proof command left).state }
          unfold removedVeth
          split
          · exact hlast.unprovenVeth fun other hother => by cases hother
          · split
            · exact hlast.unprovenVeth fun other hother => by cases hother
            · split
              · exact hlast.unprovenVeth fun other hother => by cases hother
              · exact ⟨hlast.inv, hlast.ownsNamespace, hproof ▸ hlast.ownsVeth⟩

theorem namespaceRoot_of_proof {namespaceProof : NamespaceProof} (h : state.namespaceProof = some namespaceProof) :
    state.namespaceRoot = .proven namespaceProof := by
  unfold OwnerState.namespaceProof at h
  split at h
  · rename_i proof hproof
    rw [hproof, Option.some.inj h]
  · cases h

theorem safe_removeProvenVeth {proof : ProvenVeth} (h : objects.Kept state) (hproof : state.vethRoot = .proven proof) :
    Safe careful Harmless (fun removal after => after.Kept { state with vethRoot := removal.state })
      (removeProvenVeth ipPath proof state.namespaceProof deadline) objects := by
  cases proof with
  | host pair => exact safe_removeObservedVeth h hproof fun _ hnone => by cases hnone
  | placed pair =>
      cases hnamespace : state.namespaceProof with
      | some namespaceProof =>
          refine safe_removeObservedVeth h hproof fun namespaceHandle hhandle => ?_
          exact ⟨namespaceProof, namespaceRoot_of_proof hnamespace, Option.some.inj hhandle⟩
      | none =>
          refine safe_call h rfl False.elim fun _ host _ _ _ _ _ _ hhost => ?_
          refine safe_call hhost rfl False.elim fun _ session _ _ _ _ _ _ hsession => ?_
          split
          · exact hsession.unprovenVeth fun other hother => by cases hother
          · exact hsession.unprovenVeth fun other hother => by cases hother

/-! ### The transaction -/

/-- An operation that makes and removes neither of the two roots. -/
theorem safe_aside {request : EnvironmentCall} {next : EnvironmentAnswer request → EnvironmentProgram α}
    (hrequest : productionAdapter ipPath request = askRoot (.elsewhere request)) (h : objects.Kept state)
    (hnext : ∀ answer after, after.Kept state → (objects.Paired → after.Paired) →
      Safe careful Harmless post ((next answer).translate (productionAdapter ipPath)) after) :
    Safe careful Harmless post ((ask request >>= next).translate (productionAdapter ipPath)) objects := by
  rw [bind_perform, translate_call, hrequest]
  refine safe_call h rfl False.elim fun middle answer after _ _ hpaired hanswers _ hafter => ?_
  obtain rfl := hanswers
  exact hnext answer _ hafter hpaired

theorem safe_removeRoot {Proof : Type} {root : Root Proof}
    {remove : TimePoint → EnvironmentProgram (RemovalResult Proof)} (record : Root Proof → OwnerState)
    (h : objects.Kept (record root))
    (hremove : ∀ deadline (after : HostObjects), after.Kept (record root) →
      Safe careful Harmless (fun removal later => later.Kept (record removal.state))
        ((remove deadline).translate (productionAdapter ipPath)) after) :
    Safe careful Harmless (fun removed after => after.Kept (record removed.1))
      ((removeRoot deadline root remove).translate (productionAdapter ipPath)) objects := by
  refine safe_aside rfl h fun start after hafter _ => ?_
  split
  · exact hafter
  · refine safe_aside rfl hafter fun time later hlater _ => ?_
    exact safe_translate_bind ((hremove _ _ hlater).imp fun removal last hlast => hlast)

theorem safe_removeConnectivityRoot (h : objects.Kept state) :
    Safe careful Harmless (fun removed after => after.Kept removed.1)
      ((removeConnectivityRoot deadline state).translate (productionAdapter ipPath)) objects := by
  unfold removeConnectivityRoot
  split
  · rename_i proof hproof
    refine safe_translate_bind ((safe_removeRoot (fun root => { state with connectivityRoot := root })
      ⟨h.inv, h.ownsNamespace, h.ownsVeth⟩ fun deadline after hafter => ?_).imp
      fun removed after hafter => hafter)
    exact safe_aside rfl hafter fun removal later hlater _ => ⟨hlater.inv, hlater.ownsNamespace, hlater.ownsVeth⟩
  · exact h

theorem safe_removeVethRoot (h : objects.Kept state) :
    Safe careful Harmless (fun removed after => after.Kept removed.1)
      ((removeVethRoot deadline state).translate (productionAdapter ipPath)) objects := by
  unfold removeVethRoot
  split
  · rename_i proof hproof
    refine safe_translate_bind ((safe_removeRoot (fun root => { state with vethRoot := root })
      ⟨h.inv, h.ownsNamespace, hproof ▸ h.ownsVeth⟩ fun deadline after hafter => ?_).imp
      fun removed after hafter => hafter)
    rw [translate_perform]
    exact safe_removeProvenVeth hafter hproof
  · exact h

theorem safe_removeNamespaceRoot (h : objects.Kept state) :
    Safe careful Harmless (fun removed after => after.Kept removed.1)
      ((removeNamespaceRoot deadline state).translate (productionAdapter ipPath)) objects := by
  unfold removeNamespaceRoot
  split
  · rename_i proof hproof
    refine safe_translate_bind ((safe_removeRoot (fun root => { state with namespaceRoot := root })
      ⟨h.inv, hproof ▸ h.ownsNamespace, h.ownsVeth⟩ fun deadline after hafter => ?_).imp
      fun removed after hafter => hafter)
    rw [translate_perform]
    exact safe_removeNamespace hafter hproof
  · exact h

theorem safe_removeRoots (h : objects.Kept state) :
    Safe careful Harmless (fun removed after => after.Kept removed.1)
      ((removeRoots deadline state).translate (productionAdapter ipPath)) objects := by
  refine safe_translate_bind ((safe_removeConnectivityRoot h).imp fun disconnected after hafter => ?_)
  refine safe_translate_bind ((safe_removeVethRoot hafter).imp fun unlinked later hlater => ?_)
  refine safe_translate_bind ((safe_removeNamespaceRoot hlater).imp fun closed last hlast => ?_)
  dsimp only
  split
  · exact safe_translate_bind ((safe_removeVethRoot hlast).imp fun rechecked final hfinal => hfinal)
  · exact hlast

/-- What is left behind a pass. -/
def Left (residual : Option OwnerState) (objects : HostObjects) : Prop :=
  ∀ state, residual = some state → objects.Kept state

theorem safe_cleanupState {returnResidual : Bool} {owner : Option OwnerState} (hinv : objects.Inv)
    (h : Left owner objects) : Safe careful Harmless (fun result after => after.Inv ∧ Left result.residual after)
      ((cleanupState returnResidual owner).translate (productionAdapter ipPath)) objects := by
  cases owner with
  | none => exact ⟨hinv, fun state hstate => by cases hstate⟩
  | some state =>
      refine safe_aside rfl (h state rfl) fun start after hafter _ => ?_
      refine safe_translate_bind ((safe_removeRoots hafter).imp fun removed later hlater => ?_)
      refine ⟨hlater.inv, fun residual hresidual => ?_⟩
      dsimp only at hresidual
      split at hresidual
      · obtain rfl := Option.some.inj hresidual
        exact hlater
      · cases hresidual

theorem safe_cleanupPasses (passes : List Bool) {owner : Option OwnerState} (hinv : objects.Inv)
    (h : Left owner objects) : Safe careful Harmless (fun _ _ => True)
      ((cleanupPasses passes owner).translate (productionAdapter ipPath)) objects := by
  induction passes generalizing owner objects with
  | nil => trivial
  | cons returnResidual passes ih =>
      refine safe_translate_bind ((safe_cleanupState hinv h).imp fun result after hafter => ?_)
      exact ih hafter.1 hafter.2

/-- What a preparation comes to. -/
def Settled : PreparationResult → HostObjects → Prop
  | .prepared state, objects => objects.Kept state
  | .failed failure, objects => objects.Inv ∧ Left failure.residual objects

theorem safe_preparationFailure (h : objects.Kept state) (stage : Stage) (cause : Cause) :
    Safe careful Harmless Settled ((preparationFailure state stage cause).translate (productionAdapter ipPath))
      objects := by
  have hleft : Left (some state) objects := fun other hother => Option.some.inj hother ▸ h
  exact safe_translate_bind ((safe_cleanupState h.inv hleft).imp fun result after hafter => hafter)

section Setup

variable {stage : Stage}

theorem safe_setupOperation (paired : Prop) {operation : TimePoint → EnvironmentProgram α}
    {next : α → EnvironmentProgram PreparationResult} (h : objects.Kept state) (hpaired : paired → objects.Paired)
    (hoperation : ∀ deadline (after : HostObjects), after.Kept state → (paired → after.Paired) →
      Safe careful Harmless (fun result later => Safe careful Harmless Settled
        ((next result).translate (productionAdapter ipPath)) later)
        ((operation deadline).translate (productionAdapter ipPath)) after) :
    Safe careful Harmless Settled
      ((setupOperation deadline state stage operation next).translate (productionAdapter ipPath)) objects := by
  refine safe_aside rfl h fun start after hafter hstill => ?_
  split
  · exact safe_preparationFailure hafter stage _
  · refine safe_aside rfl hafter fun time later hlater hagain => ?_
    exact safe_translate_bind (hoperation _ later hlater fun hpair => hagain (hstill (hpaired hpair)))

theorem safe_runConfiguration {operation : TimePoint → EnvironmentProgram OperationResult}
    {next : EnvironmentProgram PreparationResult} (h : objects.Kept state)
    (hoperation : ∀ deadline (after : HostObjects), after.Kept state → Safe careful Harmless
      (fun _ later => later.Kept state) ((operation deadline).translate (productionAdapter ipPath)) after)
    (hnext : ∀ after : HostObjects, after.Kept state →
      Safe careful Harmless Settled (next.translate (productionAdapter ipPath)) after) :
    Safe careful Harmless Settled
      ((runConfiguration deadline state stage operation next).translate (productionAdapter ipPath)) objects := by
  refine safe_setupOperation False h False.elim fun deadline after hafter _ => ?_
  refine (hoperation deadline after hafter).imp fun result later hlater => ?_
  split
  · exact safe_preparationFailure hlater stage _
  · exact hnext later hlater

theorem safe_acquireRoot {Proof Required : Type} {record : Root Proof → OwnerState}
    {required : Root Proof → Option Required} {operation : TimePoint → EnvironmentProgram (MutationResult Proof)}
    {next : Required → OwnerState → EnvironmentProgram PreparationResult} (paired : Prop)
    (extra : Root Proof → HostObjects → Prop) (h : objects.Kept state) (hpaired : paired → objects.Paired)
    (hoperation : ∀ deadline (after : HostObjects), after.Kept state → (paired → after.Paired) → Safe careful Harmless
      (fun result later => later.Kept (record result.state) ∧ extra result.state later)
      ((operation deadline).translate (productionAdapter ipPath)) after)
    (hnext : ∀ root proof (later : HostObjects), required root = some proof → later.Kept (record root) →
      extra root later → Safe careful Harmless Settled ((next proof (record root)).translate (productionAdapter ipPath))
        later) :
    Safe careful Harmless Settled
      ((acquireRoot deadline state stage record required operation next).translate (productionAdapter ipPath))
      objects := by
  refine safe_setupOperation paired h hpaired fun deadline after hafter hstill => ?_
  refine (hoperation deadline after hafter hstill).imp fun result later hlater => ?_
  split
  · exact safe_preparationFailure hlater.1 stage _
  · split
    · rename_i proof hproof
      exact hnext _ proof later hproof hlater.1 hlater.2
    · exact safe_preparationFailure hlater.1 stage _

end Setup

theorem safe_prepareConnectivity (h : objects.Kept state) :
    Safe careful Harmless Settled ((prepareConnectivity deadline state).translate (productionAdapter ipPath))
      objects := by
  refine safe_acquireRoot False (fun _ _ => True) h False.elim (fun deadline after hafter _ => ?_)
    fun root proof later _ hlater _ => hlater
  exact safe_aside rfl hafter fun result later hlater _ =>
    ⟨⟨hlater.inv, hlater.ownsNamespace, hlater.ownsVeth⟩, trivial⟩

theorem safe_prepareConfiguration {namespaceProof : NamespaceProof} {placedVeth : PlacedVethProof}
    (h : objects.Kept state) : Safe careful Harmless Settled
      ((prepareConfiguration deadline namespaceProof placedVeth state).translate (productionAdapter ipPath))
      objects := by
  refine safe_runConfiguration h (fun _ _ hafter => safe_aside rfl hafter fun _ _ hlater _ => hlater) fun _ h => ?_
  refine safe_runConfiguration h (fun _ _ hafter => safe_aside rfl hafter fun _ _ hlater _ => hlater) fun _ h => ?_
  refine safe_runConfiguration h (fun _ _ hafter => safe_aside rfl hafter fun _ _ hlater _ => hlater) fun _ h => ?_
  refine safe_runConfiguration h (fun _ _ hafter => safe_aside rfl hafter fun _ _ hlater _ => hlater) fun _ h => ?_
  refine safe_runConfiguration h (fun _ _ hafter => safe_aside rfl hafter fun _ _ hlater _ => hlater) fun _ h => ?_
  refine safe_runConfiguration h (fun _ _ hafter => safe_aside rfl hafter fun _ _ hlater _ => hlater) fun _ h => ?_
  exact safe_prepareConnectivity h

theorem safe_prepareVeth {namespaceProof : NamespaceProof} (h : objects.Kept state)
    (hroot : state.namespaceRoot = .proven namespaceProof) :
    Safe careful Harmless Settled ((prepareVeth deadline namespaceProof state).translate (productionAdapter ipPath))
      objects := by
  refine safe_acquireRoot False (fun root later => ∀ proof, root = .proven proof → later.Paired)
    h False.elim (fun deadline after hafter _ => ?_) fun root hostVeth later hrequired hlater hpaired => ?_
  · rw [translate_perform]
    exact safe_createVeth hafter
  · obtain rfl : root = .proven (.host hostVeth) := by
      unfold hostVeth? at hrequired
      split at hrequired
      · rw [Option.some.inj hrequired]
      · cases hrequired
    refine safe_acquireRoot True (fun _ _ => True) hlater (fun _ => hpaired _ rfl)
      (fun deadline after hafter hstill => ?_) fun placed placedVeth last _ hlast _ => safe_prepareConfiguration hlast
    rw [translate_perform]
    exact (safe_movePeer hafter (hstill trivial) hroot rfl).imp fun _ _ hmoved => ⟨hmoved, trivial⟩

theorem safe_prepareNetworkEnvironment (hinv : objects.Inv) :
    Safe careful Harmless Settled (prepareNetworkEnvironment.translate (productionAdapter ipPath)) objects := by
  have hempty : objects.Kept {} := ⟨hinv, (fun _ hproof => by cases hproof), fun _ hproof => by cases hproof⟩
  refine safe_aside rfl hempty fun start after hafter _ => ?_
  refine safe_runConfiguration hafter (fun _ _ hlater => safe_aside rfl hlater fun _ _ hlast _ => hlast)
    fun later hlater => ?_
  refine safe_acquireRoot False (fun _ _ => True) hlater False.elim (fun deadline last hlast _ => ?_)
    fun root namespaceProof last hrequired hlast _ => safe_prepareVeth hlast ?_
  · rw [translate_perform]
    exact (safe_createNamespace hlast).imp fun _ _ hmade => ⟨hmade, trivial⟩
  · unfold Root.proof? at hrequired
    split at hrequired
    · rw [Option.some.inj hrequired]
    · cases hrequired

/-- As long as no readback behind a creation takes an object of the other process for the Session's own, no deletion
of a preparation, its rollback, a cleanup, a retry or a destructor takes away what the Session has not made. -/
theorem environmentLife_harmless {start final : HostObjects} {passes : List Bool}
    {trace : List (Step RootCall RootAnswer HostObjects)} {last : RootProgram Unit}
    (hnamespaces : start.createdNamespaces = []) (hlinks : start.createdLinks = [])
    (h : Path environment ((environmentLife passes).translate (productionAdapter ipPath)) start trace last final)
    (hcareful : ∀ step ∈ trace, ¬ Adopts step) : ∀ step ∈ trace, Harmless step := by
  have hlife : Safe careful Harmless (fun _ _ => True) ((environmentLife passes).translate (productionAdapter ipPath))
      start := by
    have hinv := inv_of_untouched hnamespaces hlinks
    refine safe_translate_bind ((safe_prepareNetworkEnvironment hinv).imp fun result after hafter => ?_)
    cases result with
    | prepared state =>
        exact safe_cleanupPasses passes (Kept.inv hafter) fun other hother => Option.some.inj hother ▸ hafter
    | failed failure => exact safe_cleanupPasses passes hafter.1 hafter.2
  exact (hlife.path (h.restrict hcareful)).1

end Ledger

/-! ### Two runs -/

section Runs

variable {objects : HostObjects} {deadline : TimePoint}

/-- The path of `ip` in both runs. -/
def ipTool : Bytes := ascii "/usr/sbin/ip"

/-- The namespace is one of the other process, or the Session's own. -/
def foreignNamespace : HostObjects := { namespaceName := some ⟨4, 5⟩ }

def ownNamespace : HostObjects := { namespaceName := some ⟨4, 5⟩, createdNamespaces := [⟨4, 5⟩] }

theorem environment_now (h : objects.readback = .closed) :
    environment objects (.elsewhere .now) (0 : TimePoint) objects := by
  cases objects
  obtain rfl := h
  exact ⟨_, .refl, rfl⟩

theorem environment_preflight :
    environment {} (.elsewhere (.preflight deadline)) (⟨true, .systemFailure⟩ : OperationResult) {} :=
  ⟨_, .refl, rfl⟩

/-- The other process is ahead, so that the namespace cannot be created. -/
theorem environment_overtaken : environment {} (.runIp ipTool namespaceAddition none deadline)
    ({ kind := .nonzeroExit } : CommandResult) { foreignNamespace with readback := .ofNamespace } :=
  ⟨foreignNamespace, .single (.makesNamespace rfl List.not_mem_nil), foreignNamespace, .inr ⟨by decide, rfl⟩, rfl⟩

theorem environment_created : environment {} (.runIp ipTool namespaceAddition none deadline)
    ({ kind := .success } : CommandResult) { ownNamespace with readback := .ofNamespace } := by
  refine ⟨{}, .refl, ownNamespace, .inl ?_, rfl⟩
  have h := @Effect.addsNamespace {} ⟨4, 5⟩ rfl
  rwa [Function.update_eq_self] at h

theorem environment_found (h : objects.namespaceName = some ⟨4, 5⟩) :
    environment objects .queryNamespace (⟨.present, some ⟨4, 5⟩⟩ : NamespaceQuery)
      { objects with readback := .closed } := by
  refine ⟨objects, .refl, ⟨(fun hstatus => by cases hstatus), fun found hfound => ?_⟩, rfl⟩
  rw [h]
  exact hfound

theorem environment_deletes (h : objects.namespaceName = some ⟨4, 5⟩) (hclosed : objects.readback = .closed) :
    environment objects (.runIp ipTool namespaceDeletion none deadline) ({ kind := .success } : CommandResult)
      { objects with namespaceName := none } := by
  cases objects
  obtain rfl := h
  obtain rfl := hclosed
  exact ⟨_, .inl (.deletesNamespace rfl), rfl⟩

/-- The other process makes the namespace behind the preflight, `ip` cannot, and the rollback deletes it. -/
theorem not_environmentLife_harmless : ¬ ∀ (passes : List Bool) (start final : HostObjects)
    (trace : List (Step RootCall RootAnswer HostObjects)) (last : RootProgram Unit), start.createdNamespaces = [] →
      start.createdLinks = [] →
      Path environment ((environmentLife passes).translate (productionAdapter ipTool)) start trace last final →
      ∀ step ∈ trace, Harmless step := by
  intro h
  have hnow : environment {} (.elsewhere .now) (0 : TimePoint) {} := environment_now rfl
  have hlater : environment foreignNamespace (.elsewhere .now) (0 : TimePoint) foreignNamespace := environment_now rfl
  obtain ⟨trace, next, hprepared⟩ : ∃ trace next, Path environment ((environmentLife []).translate
      (productionAdapter ipTool)) {} trace (.call (.runIp ipTool namespaceDeletion none operationLimit) next)
      foreignNamespace :=
    ⟨_, _, .step hnow <| .step hnow <| .step hnow <| .step environment_preflight <| .step hnow <| .step hnow <|
      .step environment_overtaken <| .step (environment_found rfl) <| .step hlater <| .step hlater <| .step hlater <|
      .step (environment_found rfl) <| .refl _ _⟩
  have hpath := hprepared.trans (.step (environment_deletes rfl rfl) (.refl _ _))
  have hstep := (List.forall_mem_append.mp (h _ _ _ _ _ rfl rfl hpath)).2 _ List.mem_cons_self
  exact absurd (hstep.1 rfl _ rfl) List.not_mem_nil

/-- The Session's namespace is made, the pair is not, and the rollback deletes the namespace. -/
theorem environmentLife_harmless_rollback : ∃ trace last final,
    Path environment ((environmentLife []).translate (productionAdapter ipTool)) {} trace last final ∧
      (∃ step ∈ trace, deletes step.request = true ∧ step.before.namespaceName = some ⟨4, 5⟩) ∧
      ∀ step ∈ trace, Harmless step := by
  have hnow : environment {} (.elsewhere .now) (0 : TimePoint) {} := environment_now rfl
  have hlater : environment ownNamespace (.elsewhere .now) (0 : TimePoint) ownNamespace := environment_now rfl
  have hpairless : environment ownNamespace (.runIp ipTool vethAddition none operationLimit)
      ({ kind := .nonzeroExit } : CommandResult) { ownNamespace with readback := .ofVeth } :=
    ⟨_, .refl, _, .inr ⟨by decide, rfl⟩, rfl⟩
  have hhost : environment { ownNamespace with readback := .ofVeth }
      (.shaping (.queryHostLink nllHost operationLimit)) (⟨.absent, none⟩ : LinkQuery)
      { ownNamespace with readback := .ofPeer ⟨.absent, none⟩ } :=
    ⟨_, .refl, ⟨(fun _ => rfl), fun _ hstatus => by cases hstatus⟩, rfl⟩
  have happ : environment { ownNamespace with readback := .ofPeer ⟨.absent, none⟩ }
      (.shaping (.queryHostLink nllApp operationLimit)) (⟨.absent, none⟩ : LinkQuery) ownNamespace :=
    ⟨_, .refl, ⟨(fun _ => rfl), fun _ hstatus => by cases hstatus⟩, rfl⟩
  have hpath : Path environment ((environmentLife []).translate (productionAdapter ipTool)) {} _ _ _ :=
    .step hnow <| .step hnow <| .step hnow <| .step environment_preflight <| .step hnow <| .step hnow <|
      .step environment_created <| .step (environment_found rfl) <| .step hlater <| .step hlater <| .step hpairless <|
      .step hhost <| .step happ <| .step hlater <| .step hlater <| .step hlater <| .step (environment_found rfl) <|
      .step (environment_deletes rfl rfl) <| .refl _ _
  refine ⟨_, _, _, hpath, ?_, environmentLife_harmless rfl rfl hpath ?_⟩
  · exact ⟨_, List.mem_of_getLast? rfl, rfl, rfl⟩
  · refine List.forall_iff_forall_mem.mp ⟨id, id, id, id, id, id, id, ?_, id, id, id, id, ?_, id, id, id, ?_, id⟩
    · rintro ⟨-, identity, hfound, hother⟩
      obtain rfl := Option.some.inj hfound
      exact hother List.mem_cons_self
    · rintro ⟨pair, hfound, -⟩
      cases hfound
    · rintro ⟨hreadback, -⟩
      cases hreadback

end Runs

end HostObjects

end NetLagLab.NetworkEnvironment
