import NetLagLab.ShapingRoots

/-! What a change of shaping may tell of its outcome. A run is read by what the kernel shows and what `tc` is asked to
do; the result is sound when the last root that was read back bears it out, and nothing is changed that is not the
tool's own. -/

namespace NetLagLab.NetworkEnvironment

open ByteLines CallPrograms CallPrograms.Program

/-! ### What is seen of a run -/

/-- Where a link stands. -/
inductive Site where
  | host
  | inNamespace (namespaceHandle : NamespaceIdentity)
  deriving DecidableEq

structure Link where
  site : Site
  name : Bytes
  deriving DecidableEq

/-- The link whose root shapes a direction. -/
def shapedLink (direction : ShapingDirection) (namespaceHandle : NamespaceIdentity) : Link :=
  match direction with
  | .outbound => ⟨.inNamespace namespaceHandle, nllApp⟩
  | .inbound => ⟨.host, nllHost⟩

inductive Seen where
  | link (link : Link) (query : LinkQuery)
  | qdisc (link : Link) (query : QdiscQuery)
  | tc (site : Site) (arguments : List Bytes)
  deriving DecidableEq

def seen : ShapingEvent → Option Seen
  | ⟨.queryTool _, _⟩ => none
  | ⟨.queryHostLink name _, query⟩ => some (.link ⟨.host, name⟩ query)
  | ⟨.queryNamespaceLink namespaceHandle name _, query⟩ => some (.link ⟨.inNamespace namespaceHandle, name⟩ query)
  | ⟨.queryHostQdisc device _, query⟩ => some (.qdisc ⟨.host, device⟩ query)
  | ⟨.queryNamespaceQdisc namespaceHandle device _, query⟩ => some (.qdisc ⟨.inNamespace namespaceHandle, device⟩ query)
  | ⟨.runIpInNamespace _ arguments namespaceHandle _, _⟩ => some (.tc (.inNamespace namespaceHandle) arguments)
  | ⟨.runTool _ arguments _, _⟩ => some (.tc .host arguments)

/-- The roots that were read, in their order. -/
def qdiscs (marks : List Seen) : List QdiscQuery :=
  marks.filterMap fun
    | .qdisc _ query => some query
    | _ => none

def links (marks : List Seen) : List (Link × LinkQuery) :=
  marks.filterMap fun
    | .link link query => some (link, query)
    | _ => none

/-- What was found of the pair. -/
structure FoundPair where
  host : LinkQuery
  hostSession : LinkQuery
  session : LinkQuery

def FoundPair.links (pair : FoundPair) (namespaceHandle : NamespaceIdentity) : List (Link × LinkQuery) :=
  [(⟨.host, nllHost⟩, pair.host), (⟨.host, nllApp⟩, pair.hostSession),
    (⟨.inNamespace namespaceHandle, nllApp⟩, pair.session)]

/-- The pair is looked at, and then the root. -/
def FoundPair.marks (pair : FoundPair) (namespaceHandle : NamespaceIdentity) : List Seen :=
  (pair.links namespaceHandle).map fun found => .link found.1 found.2

section Runs

variable {direction : ShapingDirection} {namespaceHandle : NamespaceIdentity} {deadline : TimePoint}
  {trace : List ShapingEvent}

theorem run_observeVeth {observation : VethObservation}
    (h : Run (observeVeth (some namespaceHandle) deadline) trace observation) :
    ∃ pair : FoundPair, trace.filterMap seen = pair.marks namespaceHandle ∧
      ∀ identity, observation.identity = some identity →
        validPlacedPair pair.host pair.hostSession pair.session = true ∧
          identityPair pair.host pair.session = some identity := by
  simp only [observeVeth, callShaping, bind_perform, run_call] at h
  obtain ⟨host, _, rfl, hostSession, _, rfl, session, rest, rfl, h⟩ := h
  refine ⟨⟨host, hostSession, session⟩, ?_⟩
  split at h
  · obtain ⟨rfl, rfl⟩ := run_done.mp h
    exact ⟨rfl, fun pair hpair => nomatch hpair⟩
  · split at h
    · obtain ⟨rfl, rfl⟩ := run_done.mp h
      exact ⟨rfl, fun pair hpair => ⟨‹_›, hpair⟩⟩
    · obtain ⟨rfl, rfl⟩ := run_done.mp h
      exact ⟨rfl, fun pair hpair => nomatch hpair⟩

theorem run_inspect {query : QdiscQuery} (h : Run (inspect direction namespaceHandle deadline) trace query) :
    trace.filterMap seen = [.qdisc (shapedLink direction namespaceHandle) query] := by
  cases direction with
  | outbound =>
      obtain ⟨answer, rest, rfl, hrest⟩ := run_call.mp h
      obtain ⟨rfl, rfl⟩ := run_done.mp hrest
      rfl
  | inbound =>
      obtain ⟨answer, rest, rfl, hrest⟩ := run_call.mp h
      obtain ⟨rfl, rfl⟩ := run_done.mp hrest
      rfl

theorem run_tcPath {paths : List Bytes} {path : Option Bytes} (h : Run (tcPath paths) trace path) :
    trace.filterMap seen = [] := by
  induction paths generalizing trace with
  | nil =>
      obtain ⟨rfl, -⟩ := run_done.mp h
      rfl
  | cons first paths ih =>
      simp only [tcPath, callShaping, bind_perform, run_call] at h
      obtain ⟨query, rest, rfl, h⟩ := h
      split at h
      · obtain ⟨rfl, -⟩ := run_done.mp h
        rfl
      · split at h
        · obtain ⟨rfl, -⟩ := run_done.mp h
          rfl
        · rw [List.filterMap_cons_none rfl]
          exact ih h

variable [DecimalText]

theorem run_runTc {path : Bytes} {settings : DirectionSettings} {existing : RootQdisc} {result : CommandResult}
    (h : Run (runTc direction namespaceHandle path settings existing deadline) trace result) :
    ∃ operation, trace.filterMap seen =
      ((makeArguments direction operation settings).map (.tc (shapedLink direction namespaceHandle).site)).toList := by
  unfold runTc at h
  dsimp only at h
  generalize (if unrestricted settings = true then _ else _ : Bytes) = operation at h
  refine ⟨operation, ?_⟩
  split at h
  · rename_i hnone
    obtain ⟨rfl, -⟩ := run_done.mp h
    rw [hnone]
    rfl
  · rename_i arguments hsome
    rw [hsome]
    cases direction with
    | outbound =>
        obtain ⟨answer, rest, rfl, hrest⟩ := run_call.mp h
        obtain ⟨rfl, -⟩ := run_done.mp hrest
        rfl
    | inbound =>
        obtain ⟨answer, rest, rfl, hrest⟩ := run_call.mp h
        obtain ⟨rfl, -⟩ := run_done.mp hrest
        rfl

end Runs

/-! ### The course of a change -/

section Course

variable [DecimalText]

/-- The links of the proof, and the root that carries the current settings. -/
structure Start (identity : Option VethIdentityPair) (current : DirectionSettings) (pair : FoundPair)
    (before : QdiscQuery) : Prop where
  placed : validPlacedPair pair.host pair.hostSession pair.session = true
  identified : identity = identityPair pair.host pair.session
  paired : identity.isSome = true
  shown : Shows before current

/-- What a change may do in a namespace, and the result it may have. -/
inductive Course (namespaceHandle : NamespaceIdentity) (identity : Option VethIdentityPair)
    (direction : ShapingDirection) (current requested : DirectionSettings) :
    List Seen → ShapingChangeResult → Prop
  | strange (pair : FoundPair) :
      Course namespaceHandle identity direction current requested (pair.marks namespaceHandle) .stateUnknown
  | unsupported (pair : FoundPair) :
      Course namespaceHandle identity direction current requested (pair.marks namespaceHandle) .restoredAfterFailure
  | unconfirmed (pair : FoundPair) (before : QdiscQuery) :
      Course namespaceHandle identity direction current requested
        (pair.marks namespaceHandle ++ [.qdisc (shapedLink direction namespaceHandle) before]) .stateUnknown
  | unchanged (pair : FoundPair) {before : QdiscQuery} (shown : Shows before requested)
      (supported : supported requested = true) :
      Course namespaceHandle identity direction current requested
        (pair.marks namespaceHandle ++ [.qdisc (shapedLink direction namespaceHandle) before]) .applied
  | toolless (pair : FoundPair) (before : QdiscQuery) :
      Course namespaceHandle identity direction current requested
        (pair.marks namespaceHandle ++ [.qdisc (shapedLink direction namespaceHandle) before]) .restoredAfterFailure
  | attempted {pair : FoundPair} {before after : QdiscQuery} {operation : Bytes} {arguments : List Bytes}
      {result : ShapingChangeResult} (start : Start identity current pair before)
      (supported : supported requested = true)
      (command : makeArguments direction operation requested = some arguments)
      (applied : result = .applied → Shows after requested)
      (restored : result = .restoredAfterFailure → Shows after current)
      (unowned : result = .stateUnknown → ∀ root, after.status = .present → after.root = some root →
        isOwnedRootQdisc root = false) :
      Course namespaceHandle identity direction current requested
        (pair.marks namespaceHandle ++ [.qdisc (shapedLink direction namespaceHandle) before] ++
          .tc (shapedLink direction namespaceHandle).site arguments ::
            [.qdisc (shapedLink direction namespaceHandle) after]) result
  | rolledBack {pair : FoundPair} {before after last : QdiscQuery} {operation again : Bytes} {arguments : List Bytes}
      {root : RootQdisc} {result : ShapingChangeResult} (start : Start identity current pair before)
      (supported : supported requested = true)
      (command : makeArguments direction operation requested = some arguments)
      (present : after.status = .present) (found : after.root = some root) (owned : isOwnedRootQdisc root = true)
      (unapplied : result ≠ .applied) (restored : result = .restoredAfterFailure → Shows last current) :
      Course namespaceHandle identity direction current requested
        (pair.marks namespaceHandle ++ [.qdisc (shapedLink direction namespaceHandle) before] ++
          .tc (shapedLink direction namespaceHandle).site arguments ::
            ([.qdisc (shapedLink direction namespaceHandle) after] ++
              (((makeArguments direction again current).map
                (.tc (shapedLink direction namespaceHandle).site)).toList ++
              [.qdisc (shapedLink direction namespaceHandle) last]))) result

variable {exactHandle : Option NamespaceIdentity} {identity : Option VethIdentityPair} {direction : ShapingDirection}
  {current requested : DirectionSettings} {deadline : TimePoint} {trace : List ShapingEvent}
  {result : ShapingChangeResult}

theorem setSettings_course (h : Run (setSettings exactHandle identity direction current requested deadline) trace result) :
    trace.filterMap seen = [] ∧ result = .stateUnknown ∨
      ∃ namespaceHandle, exactHandle = some namespaceHandle ∧
        Course namespaceHandle identity direction current requested (trace.filterMap seen) result := by
  unfold setSettings at h
  split at h
  swap
  · obtain ⟨rfl, rfl⟩ := run_done.mp h
    exact Or.inl ⟨rfl, rfl⟩
  split at h
  swap
  · obtain ⟨rfl, rfl⟩ := run_done.mp h
    exact Or.inl ⟨rfl, rfl⟩
  rename_i proven _ namespaceHandle
  refine Or.inr ⟨namespaceHandle, rfl, ?_⟩
  obtain ⟨first, observed, rest, rfl, hveth, h⟩ := run_bind.mp h
  obtain ⟨pair, hfirst, hobserved⟩ := run_observeVeth hveth
  rw [List.filterMap_append, hfirst]
  split at h
  · obtain ⟨rfl, rfl⟩ := run_done.mp h
    exact List.append_nil _ ▸ .strange pair
  rename_i hproven
  split at h
  · obtain ⟨rfl, rfl⟩ := run_done.mp h
    exact List.append_nil _ ▸ .unsupported pair
  rename_i hsupported
  rw [Bool.not_eq_false] at hsupported
  obtain ⟨second, before, rest, rfl, hinspect, h⟩ := run_bind.mp h
  rw [List.filterMap_append, run_inspect hinspect, ← List.append_assoc]
  split at h
  swap
  · obtain ⟨rfl, rfl⟩ := run_done.mp h
    exact List.append_nil _ ▸ .unconfirmed pair before
  rename_i existing hexisting
  obtain ⟨hpresent, hroot, hcarries⟩ := shownRoot_eq_some_iff.mp hexisting
  split at h
  · rename_i hsame
    obtain ⟨rfl, rfl⟩ := run_done.mp h
    exact List.append_nil _ ▸ .unchanged pair ⟨hpresent, existing, hroot, hcarries.congr hsame⟩ hsupported
  obtain ⟨third, path, rest, rfl, htool, h⟩ := run_bind.mp h
  rw [List.filterMap_append, run_tcPath htool, List.nil_append]
  split at h
  swap
  · obtain ⟨rfl, rfl⟩ := run_done.mp h
    exact List.append_nil _ ▸ .toolless pair before
  have hstart : Start (some proven) current pair before := by
    rw [not_or, ne_eq, not_not] at hproven
    obtain ⟨hplaced, hpair⟩ := hobserved proven hproven.2
    exact ⟨hplaced, hpair.symm, rfl, hpresent, existing, hroot, hcarries⟩
  obtain ⟨fourth, _, rest, rfl, hattempt, h⟩ := run_bind.mp h
  obtain ⟨operation, hfourth⟩ := run_runTc hattempt
  obtain ⟨arguments, harguments⟩ := Option.isSome_iff_exists.mp (makeArguments_isSome hsupported direction operation)
  obtain ⟨fifth, after, rest, rfl, hafter, h⟩ := run_bind.mp h
  rw [List.filterMap_append, hfourth, harguments, List.filterMap_append, run_inspect hafter]
  split at h
  · rename_i happlied
    obtain ⟨rfl, rfl⟩ := run_done.mp h
    exact .attempted hstart hsupported harguments (fun _ => queryMatches_iff.mp happlied) (fun hcontra => nomatch hcontra)
      (fun hcontra => nomatch hcontra)
  split at h
  · rename_i hrestored
    obtain ⟨rfl, rfl⟩ := run_done.mp h
    exact .attempted hstart hsupported harguments (fun hcontra => nomatch hcontra) (fun _ => queryMatches_iff.mp hrestored)
      (fun hcontra => nomatch hcontra)
  split at h
  · rename_i hmissing
    obtain ⟨rfl, rfl⟩ := run_done.mp h
    exact .attempted hstart hsupported harguments (fun hcontra => nomatch hcontra) (fun hcontra => nomatch hcontra)
      (fun _ root hstatus => absurd hstatus hmissing)
  rename_i hstatus
  rw [ne_eq, not_not] at hstatus
  split at h
  swap
  · rename_i hnone
    obtain ⟨rfl, rfl⟩ := run_done.mp h
    exact .attempted hstart hsupported harguments (fun hcontra => nomatch hcontra) (fun hcontra => nomatch hcontra)
      (fun _ root _ hfound => absurd hfound (hnone root))
  rename_i root hfound
  split at h
  · rename_i hunowned
    obtain ⟨rfl, rfl⟩ := run_done.mp h
    refine .attempted hstart hsupported harguments (fun hcontra => nomatch hcontra) (fun hcontra => nomatch hcontra)
      (fun _ other _ hother => ?_)
    rwa [← Option.some.inj (hfound.symm.trans hother)]
  rename_i howned
  rw [Bool.not_eq_false] at howned
  obtain ⟨sixth, _, rest, rfl, hrollback, h⟩ := run_bind.mp h
  obtain ⟨operation, hsixth⟩ := run_runTc hrollback
  obtain ⟨seventh, last, rest, rfl, hlast, h⟩ := run_bind.mp h
  obtain ⟨rfl, rfl⟩ := run_done.mp h
  rw [List.filterMap_append, hsixth, List.filterMap_append, run_inspect hlast]
  refine .rolledBack hstart hsupported harguments hstatus hfound howned ?_ fun hrestored => queryMatches_iff.mp ?_
  · split <;> exact fun hcontra => nomatch hcontra
  · by_contra hlost
    rw [if_neg hlost] at hrestored
    exact nomatch hrestored

end Course

/-! ### Soundness -/

/-- No command was run. -/
def Quiet (marks : List Seen) : Prop := ∀ site arguments, .tc site arguments ∉ marks

/-- The last root that was read shows the settings. -/
def LastShows (marks : List Seen) (settings : DirectionSettings) : Prop :=
  ∃ query, (qdiscs marks).getLast? = some query ∧ Shows query settings

/-- The pair of the proof has been seen, its peer in the namespace, and the root with the current settings. -/
def Confirmed (exactHandle : Option NamespaceIdentity) (identity : Option VethIdentityPair)
    (current : DirectionSettings) (before : List Seen) : Prop :=
  ∃ (namespaceHandle : NamespaceIdentity) (pair : FoundPair) (query : QdiscQuery),
    exactHandle = some namespaceHandle ∧ links before = pair.links namespaceHandle ∧
      Start identity current pair query ∧ (qdiscs before).head? = some query

/-- The last root that was read is one of the tool's own. -/
def LastOwn (own : RootQdisc → Prop) (marks : List Seen) : Prop :=
  ∃ query root, (qdiscs marks).getLast? = some query ∧ query.status = .present ∧ query.root = some root ∧ own root

/-- A root that is read, and one that is changed, is that of the link that shapes the direction. -/
def Seen.OnShapedLink (exactHandle : Option NamespaceIdentity) (direction : ShapingDirection) : Seen → Prop
  | .link _ _ => True
  | .qdisc place _ => exactHandle.map (shapedLink direction) = some place
  | .tc site _ => exactHandle.map (fun namespaceHandle => (shapedLink direction namespaceHandle).site) = some site

/-- What a change tells of its outcome is borne out, and it changes only what is proven and the tool's own, on the
link that it reads. -/
structure Sound [DecimalText] (own : RootQdisc → Prop) (exactHandle : Option NamespaceIdentity)
    (identity : Option VethIdentityPair) (direction : ShapingDirection) (current requested : DirectionSettings)
    (marks : List Seen) (result : ShapingChangeResult) : Prop where
  applied : result = .applied → LastShows marks requested ∧
    (requested.packetLossPercent.isPositive = true → lossProbability requested.packetLossPercent ≠ some 0)
  restored : result = .restoredAfterFailure → Quiet marks ∨ LastShows marks current
  shaped : ∀ mark ∈ marks, mark.OnShapedLink exactHandle direction
  proven : ∀ before site arguments after, marks = before ++ .tc site arguments :: after →
    Confirmed exactHandle identity current before
  change : ∀ before site arguments after, marks = before ++ .tc site arguments :: after → Quiet before →
    ∃ operation, makeArguments direction operation requested = some arguments
  rollback : ∀ before site arguments middle again rollback after,
    marks = before ++ .tc site arguments :: (middle ++ .tc again rollback :: after) →
    LastOwn own middle ∧ ∃ operation, makeArguments direction operation current = some rollback
  unknown : ¬ LastShows marks requested → ¬ Quiet marks → ¬ LastShows marks current → result = .stateUnknown

/-- The root that is read back after the attempt is not foreign netem under the tool's handle, unless the current
settings have no command. -/
def Unmixed [DecimalText] (direction : ShapingDirection) (current : DirectionSettings) (marks : List Seen) : Prop :=
  ∀ query root, (qdiscs marks)[1]? = some query → query.status = .present → query.root = some root →
    root.kind = .netem → root.handle = ownedNetemHandle → Foreign root →
    makeArguments direction (ascii "change") current = none

section Soundness

variable {own : RootQdisc → Prop} {exactHandle : Option NamespaceIdentity} {namespaceHandle : NamespaceIdentity}
  {identity : Option VethIdentityPair} {direction : ShapingDirection} {current requested settings : DirectionSettings}
  {marks front before rest after : List Seen} {first site : Site} {command arguments : List Bytes}
  {result : ShapingChangeResult} {root : RootQdisc}

/-- The first command is the one split at, or stands before it. -/
theorem split_at_tc (hfront : Quiet front)
    (h : front ++ .tc first command :: rest = before ++ .tc site arguments :: after) :
    before = front ∧ site = first ∧ arguments = command ∧ after = rest ∨
      ∃ more, before = front ++ .tc first command :: more ∧ rest = more ++ .tc site arguments :: after := by
  rcases List.append_eq_append_iff.mp h with ⟨more, rfl, hmore⟩ | ⟨more, rfl, hmore⟩
  · rcases more with _ | ⟨mark, more⟩
    · rw [List.nil_append, List.cons.injEq, Seen.tc.injEq] at hmore
      exact Or.inl ⟨List.append_nil front, hmore.1.1.symm, hmore.1.2.symm, hmore.2.symm⟩
    · rw [List.cons_append, List.cons.injEq] at hmore
      obtain ⟨rfl, rfl⟩ := hmore
      exact Or.inr ⟨more, rfl, rfl⟩
  · rcases more with _ | ⟨mark, more⟩
    · rw [List.nil_append, List.cons.injEq, Seen.tc.injEq] at hmore
      exact Or.inl ⟨(List.append_nil before).symm, hmore.1.1, hmore.1.2, hmore.2⟩
    · rw [List.cons_append, List.cons.injEq] at hmore
      refine absurd ?_ (hfront site arguments)
      rw [hmore.1]
      exact List.mem_append_right _ List.mem_cons_self

theorem not_split (h : Quiet front) : front ≠ before ++ .tc site arguments :: after := by
  rintro rfl
  exact h site arguments (List.mem_append_right _ List.mem_cons_self)

theorem quiet_marks (pair : FoundPair) (namespaceHandle : NamespaceIdentity) : Quiet (pair.marks namespaceHandle) := by
  simp [Quiet, FoundPair.marks, FoundPair.links]

theorem quiet_front (pair : FoundPair) (namespaceHandle : NamespaceIdentity) (link : Link) (query : QdiscQuery) :
    Quiet (pair.marks namespaceHandle ++ [.qdisc link query]) := by
  simp [Quiet, FoundPair.marks, FoundPair.links]

theorem quiet_qdisc (link : Link) (query : QdiscQuery) : Quiet [.qdisc link query] := by
  simp [Quiet]

variable [DecimalText]

/-! #### The parts of soundness -/

/-- The other cases follow. -/
theorem Sound.of_told
    (applied : result = .applied → LastShows marks requested ∧
      (requested.packetLossPercent.isPositive = true → lossProbability requested.packetLossPercent ≠ some 0))
    (restored : result = .restoredAfterFailure → Quiet marks ∨ LastShows marks current)
    (shaped : ∀ mark ∈ marks, mark.OnShapedLink exactHandle direction)
    (proven : ∀ before site arguments after, marks = before ++ .tc site arguments :: after →
      Confirmed exactHandle identity current before)
    (change : ∀ before site arguments after, marks = before ++ .tc site arguments :: after → Quiet before →
      ∃ operation, makeArguments direction operation requested = some arguments)
    (rollback : ∀ before site arguments middle again rollback after,
      marks = before ++ .tc site arguments :: (middle ++ .tc again rollback :: after) →
      LastOwn own middle ∧ ∃ operation, makeArguments direction operation current = some rollback) :
    Sound own exactHandle identity direction current requested marks result := by
  refine ⟨applied, restored, shaped, proven, change, rollback, fun hrequested hcommands hcurrent => ?_⟩
  cases result with
  | applied => exact absurd (applied rfl).1 hrequested
  | restoredAfterFailure => exact absurd ((restored rfl).resolve_right hcurrent) hcommands
  | stateUnknown => rfl

/-- A change without a command. -/
theorem sound_quiet (hquiet : Quiet marks) (shaped : ∀ mark ∈ marks, mark.OnShapedLink exactHandle direction)
    (applied : result = .applied → LastShows marks requested ∧
      (requested.packetLossPercent.isPositive = true → lossProbability requested.packetLossPercent ≠ some 0)) :
    Sound own exactHandle identity direction current requested marks result :=
  Sound.of_told applied (fun _ => Or.inl hquiet) shaped (fun _ _ _ _ h => absurd h (not_split hquiet))
    (fun _ _ _ _ h => absurd h (not_split hquiet)) fun _ _ _ _ _ _ _ h => absurd h (not_split hquiet)

omit [DecimalText] in
/-- Supported settings lose nothing to rounding. -/
theorem supported_loss (h : supported requested = true) (hpositive : requested.packetLossPercent.isPositive = true) :
    lossProbability requested.packetLossPercent ≠ some 0 := by
  intro hzero
  simp only [supported, Bool.and_eq_true] at h
  rw [hzero, hpositive] at h
  exact absurd h.2 (by decide)

variable {pair : FoundPair} {query attempt last : QdiscQuery} {operation again : Bytes}

section Parts

omit [DecimalText]

/-- What stands before the first command. -/
theorem Start.confirmed (h : Start identity current pair query) (link : Link) :
    Confirmed (some namespaceHandle) identity current (pair.marks namespaceHandle ++ [.qdisc link query]) :=
  ⟨namespaceHandle, pair, query, rfl, rfl, h, rfl⟩

theorem Confirmed.append (h : Confirmed exactHandle identity current before) (hlinks : links rest = []) :
    Confirmed exactHandle identity current (before ++ rest) := by
  obtain ⟨namespaceHandle, pair, query, hheld, hpair, hstart, hquery⟩ := h
  refine ⟨namespaceHandle, pair, query, hheld, ?_, hstart, ?_⟩
  · rw [links, List.filterMap_append, show rest.filterMap _ = [] from hlinks, List.append_nil]
    exact hpair
  · rw [qdiscs, List.filterMap_append, List.head?_append, show (before.filterMap _).head? = some query from hquery]
    rfl

theorem onShapedLink_pair (pair : FoundPair) (namespaceHandle : NamespaceIdentity) :
    ∀ mark ∈ pair.marks namespaceHandle, mark.OnShapedLink exactHandle direction := by
  simp [FoundPair.marks, FoundPair.links, Seen.OnShapedLink]

theorem onShapedLink_front (pair : FoundPair) (query : QdiscQuery) :
    ∀ mark ∈ pair.marks namespaceHandle ++ [.qdisc (shapedLink direction namespaceHandle) query],
      mark.OnShapedLink (some namespaceHandle) direction :=
  List.forall_mem_append.mpr ⟨onShapedLink_pair pair namespaceHandle, List.forall_mem_singleton.mpr rfl⟩

theorem onShapedLink_command (command : Option (List Bytes)) :
    ∀ mark ∈ (command.map (Seen.tc (shapedLink direction namespaceHandle).site)).toList,
      mark.OnShapedLink (some namespaceHandle) direction := by
  cases command with
  | none => exact List.forall_mem_nil _
  | some arguments => exact List.forall_mem_singleton.mpr rfl

end Parts

/-- A change with one command. -/
theorem sound_once (hfront : Quiet front) (hrest : Quiet rest)
    (hconfirmed : Confirmed exactHandle identity current front)
    (hcommand : makeArguments direction operation requested = some command)
    (shaped : ∀ mark ∈ front ++ .tc first command :: rest, mark.OnShapedLink exactHandle direction)
    (applied : result = .applied → LastShows (front ++ .tc first command :: rest) requested ∧
      (requested.packetLossPercent.isPositive = true → lossProbability requested.packetLossPercent ≠ some 0))
    (restored : result = .restoredAfterFailure → LastShows (front ++ .tc first command :: rest) current) :
    Sound own exactHandle identity direction current requested (front ++ .tc first command :: rest) result := by
  have honly : ∀ {before site arguments after},
      front ++ .tc first command :: rest = before ++ .tc site arguments :: after →
      before = front ∧ arguments = command ∧ after = rest := by
    intro before site arguments after h
    rcases split_at_tc hfront h with ⟨hbefore, -, harguments, hafter⟩ | ⟨more, -, hmore⟩
    · exact ⟨hbefore, harguments, hafter⟩
    · exact absurd hmore (not_split hrest)
  refine Sound.of_told applied (fun h => Or.inr (restored h)) shaped (fun before site arguments after h => ?_)
    (fun before site arguments after h _ => ?_) fun before site arguments middle other rollback after h => ?_
  · obtain ⟨rfl, -, -⟩ := honly h
    exact hconfirmed
  · obtain ⟨-, rfl, -⟩ := honly h
    exact ⟨operation, hcommand⟩
  · exact absurd (honly h).2.2.symm (not_split hrest)

theorem sound_attempted (start : Start identity current pair query) (supported : supported requested = true)
    (hcommand : makeArguments direction operation requested = some command)
    (applied : result = .applied → Shows last requested)
    (restored : result = .restoredAfterFailure → Shows last current) :
    Sound own (some namespaceHandle) identity direction current requested
      (pair.marks namespaceHandle ++ [.qdisc (shapedLink direction namespaceHandle) query] ++
        .tc (shapedLink direction namespaceHandle).site command ::
          [.qdisc (shapedLink direction namespaceHandle) last]) result := by
  refine sound_once (quiet_front _ _ _ _) (quiet_qdisc _ _) (start.confirmed _) hcommand ?_
    (fun h => ⟨⟨last, by simp [qdiscs], applied h⟩, supported_loss supported⟩)
    fun h => ⟨last, by simp [qdiscs], restored h⟩
  exact List.forall_mem_append.mpr ⟨onShapedLink_front pair query,
    List.forall_mem_cons.mpr ⟨rfl, List.forall_mem_singleton.mpr rfl⟩⟩

theorem sound_rolledBack (start : Start identity current pair query)
    (hcommand : makeArguments direction operation requested = some command)
    (present : attempt.status = .present) (found : attempt.root = some root)
    (own_root : (makeArguments direction again current).isSome = true → own root)
    (unapplied : result ≠ .applied) (restored : result = .restoredAfterFailure → Shows last current) :
    Sound own (some namespaceHandle) identity direction current requested
      (pair.marks namespaceHandle ++ [.qdisc (shapedLink direction namespaceHandle) query] ++
        .tc (shapedLink direction namespaceHandle).site command ::
          ([.qdisc (shapedLink direction namespaceHandle) attempt] ++
            (((makeArguments direction again current).map
              (.tc (shapedLink direction namespaceHandle).site)).toList ++
            [.qdisc (shapedLink direction namespaceHandle) last]))) result := by
  have hfront := quiet_front pair namespaceHandle (shapedLink direction namespaceHandle) query
  have hattempt := quiet_qdisc (shapedLink direction namespaceHandle) attempt
  have hlast := quiet_qdisc (shapedLink direction namespaceHandle) last
  have hshaped : ∀ mark ∈ pair.marks namespaceHandle ++ [.qdisc (shapedLink direction namespaceHandle) query] ++
      .tc (shapedLink direction namespaceHandle).site command ::
        ([.qdisc (shapedLink direction namespaceHandle) attempt] ++
          (((makeArguments direction again current).map (.tc (shapedLink direction namespaceHandle).site)).toList ++
          [.qdisc (shapedLink direction namespaceHandle) last])),
      mark.OnShapedLink (some namespaceHandle) direction := by
    refine List.forall_mem_append.mpr ⟨onShapedLink_front pair query, List.forall_mem_cons.mpr ⟨rfl, ?_⟩⟩
    exact List.forall_mem_append.mpr ⟨List.forall_mem_singleton.mpr rfl,
      List.forall_mem_append.mpr ⟨onShapedLink_command _, List.forall_mem_singleton.mpr rfl⟩⟩
  cases hagain : makeArguments direction again current with
  | none =>
      rw [hagain] at hshaped
      have hrest : Quiet ([.qdisc (shapedLink direction namespaceHandle) attempt] ++
          [.qdisc (shapedLink direction namespaceHandle) last]) := by simp [Quiet]
      exact sound_once hfront hrest (start.confirmed _) hcommand hshaped (fun h => absurd h unapplied)
        fun h => ⟨last, by simp [qdiscs], restored h⟩
  | some second =>
      rw [hagain] at hshaped
      refine Sound.of_told (fun h => absurd h unapplied) (fun h => Or.inr ⟨last, by simp [qdiscs], restored h⟩) hshaped
        (fun before site arguments after h => ?_) (fun before site arguments after h hquiet => ?_)
        fun before site arguments middle other rollback after h => ?_
      · rcases split_at_tc hfront h with ⟨rfl, -, -, -⟩ | ⟨more, rfl, hmore⟩
        · exact start.confirmed _
        · rcases split_at_tc hattempt hmore with ⟨rfl, -, -, -⟩ | ⟨others, -, hothers⟩
          · exact (start.confirmed _).append rfl
          · exact absurd hothers (not_split hlast)
      · rcases split_at_tc hfront h with ⟨-, -, rfl, -⟩ | ⟨more, rfl, -⟩
        · exact ⟨operation, hcommand⟩
        · exact absurd (List.mem_append_right _ List.mem_cons_self) (hquiet _ _)
      · rcases split_at_tc hfront h with ⟨-, -, -, hafter⟩ | ⟨more, -, hmore⟩
        · rcases split_at_tc hattempt hafter.symm with ⟨rfl, -, rfl, -⟩ | ⟨others, -, hothers⟩
          · exact ⟨⟨attempt, root, rfl, present, found, own_root (by rw [hagain]; rfl)⟩, again, hagain⟩
          · exact absurd hothers (not_split hlast)
        · rcases split_at_tc hattempt hmore with ⟨-, -, -, hafter⟩ | ⟨others, -, hothers⟩
          · exact absurd hafter.symm (not_split hlast)
          · exact absurd hothers (not_split hlast)

/-- A course is sound for what is the tool's own if the root of a rollback is. -/
theorem Course.sound (h : Course namespaceHandle identity direction current requested marks result)
    (hown : ∀ query root, (qdiscs marks)[1]? = some query → query.status = .present → query.root = some root →
      isOwnedRootQdisc root = true → makeArguments direction (ascii "change") current ≠ none → own root) :
    Sound own (some namespaceHandle) identity direction current requested marks result := by
  cases h with
  | strange pair => exact sound_quiet (quiet_marks _ _) (onShapedLink_pair _ _) (fun h => nomatch h)
  | unsupported pair => exact sound_quiet (quiet_marks _ _) (onShapedLink_pair _ _) (fun h => nomatch h)
  | unconfirmed pair before => exact sound_quiet (quiet_front _ _ _ _) (onShapedLink_front _ _) (fun h => nomatch h)
  | unchanged pair shown supported =>
      exact sound_quiet (quiet_front _ _ _ _) (onShapedLink_front _ _)
        fun _ => ⟨⟨_, rfl, shown⟩, supported_loss supported⟩
  | toolless pair before => exact sound_quiet (quiet_front _ _ _ _) (onShapedLink_front _ _) (fun h => nomatch h)
  | attempted start supported command applied restored unowned =>
      exact sound_attempted start supported command applied restored
  | @rolledBack pair before attempt last operation again arguments root result start supported command present found
      owned unapplied restored =>
      refine sound_rolledBack start command present found (fun hagain => ?_) unapplied restored
      refine hown attempt root (by simp [qdiscs, FoundPair.marks, FoundPair.links]) present found owned fun hnone => ?_
      rw [makeArguments_eq_none direction _ again current hnone] at hagain
      exact nomatch hagain

/-- A root that carries supported settings can be the tool's. -/
theorem Shows.installable {operation : Bytes} (h : Shows query settings) (hroot : query.root = some root)
    (hcommand : (makeArguments direction operation settings).isSome = true) : Installable direction root := by
  obtain ⟨-, other, hother, hcarries⟩ := h
  rw [← Option.some.inj (hother.symm.trans hroot)]
  exact hcarries.installable hcommand

theorem Unmixed.installable (h : Unmixed direction current marks) (hquery : (qdiscs marks)[1]? = some query)
    (hpresent : query.status = .present) (hfound : query.root = some root) (howned : isOwnedRootQdisc root = true)
    (hcommand : makeArguments direction (ascii "change") current ≠ none) : Installable direction root := by
  rcases isOwnedRootQdisc_iff.mp howned with ⟨hkind, hhandle⟩ | ⟨hkind, hhandle⟩
  · exact installable_noqueue hkind hhandle
  · exact installable_of_not_foreign hkind hhandle fun hforeign =>
      hcommand (h query root hquery hpresent hfound hkind hhandle hforeign)

theorem Course.unmixed (h : Course namespaceHandle identity direction current requested marks result)
    (hsound : Sound (Installable direction) (some namespaceHandle) identity direction current requested marks result) :
    Unmixed direction current marks := by
  intro query root hquery hpresent hfound hkind hhandle hforeign
  have hstrange : ¬ Installable direction root := not_installable hkind hforeign
  cases h with
  | @attempted pair before after operation arguments result start supported command applied restored unowned =>
      obtain rfl : after = query := by simpa [qdiscs, FoundPair.marks, FoundPair.links] using hquery
      cases result with
      | applied =>
          have hcommand : (makeArguments direction operation requested).isSome = true := by rw [command]; rfl
          exact absurd ((applied rfl).installable hfound hcommand) hstrange
      | restoredAfterFailure =>
          by_contra hcommand
          exact hstrange ((restored rfl).installable hfound (Option.isSome_iff_ne_none.mpr hcommand))
      | stateUnknown =>
          have howned := isOwnedRootQdisc_iff.mpr (Or.inr ⟨hkind, hhandle⟩)
          exact nomatch howned.symm.trans (unowned rfl root hpresent hfound)
  | @rolledBack pair before attempt last operation again arguments other result start supported command present found
      owned unapplied restored =>
      obtain rfl : attempt = query := by simpa [qdiscs, FoundPair.marks, FoundPair.links] using hquery
      cases hagain : makeArguments direction again current with
      | none => exact makeArguments_eq_none direction again _ current hagain
      | some rollback =>
          rw [hagain] at hsound
          obtain ⟨⟨seenQuery, seenRoot, hseen, -, hroot, hinstallable⟩, -⟩ :=
            hsound.rollback _ _ arguments [.qdisc (shapedLink direction namespaceHandle) attempt] _ rollback
              [.qdisc (shapedLink direction namespaceHandle) last] rfl
          obtain rfl := Option.some.inj hseen
          obtain rfl := Option.some.inj (hroot.symm.trans hfound)
          exact absurd hinstallable hstrange
  | _ => simp [qdiscs, FoundPair.marks, FoundPair.links] at hquery

variable {deadline : TimePoint} {trace : List ShapingEvent}

/-- A change of shaping is always sound for the roots under the tool's handle. It is sound for the roots that the tool
can have left exactly when the root that is read back after the attempt is not foreign under that handle. -/
theorem setSettings_sound_iff
    (h : Run (setSettings exactHandle identity direction current requested deadline) trace result) :
    Sound (isOwnedRootQdisc · = true) exactHandle identity direction current requested (trace.filterMap seen) result ∧
      (Sound (Installable direction) exactHandle identity direction current requested (trace.filterMap seen) result ↔
        Unmixed direction current (trace.filterMap seen)) := by
  have hidle : ∀ own, Sound own exactHandle identity direction current requested [] .stateUnknown := fun own =>
    sound_quiet (fun _ _ => List.not_mem_nil) (List.forall_mem_nil _) (fun h => nomatch h)
  rcases setSettings_course h with ⟨hnone, rfl⟩ | ⟨namespaceHandle, rfl, hcourse⟩
  · rw [hnone]
    refine ⟨hidle _, fun _ query root hquery => ?_, fun _ => hidle _⟩
    cases hquery
  · exact ⟨hcourse.sound fun _ _ _ _ _ howned _ => howned, hcourse.unmixed,
      fun hunmixed => hcourse.sound fun _ _ => hunmixed.installable⟩

end Soundness

section Sample

attribute [local instance] bitPatternText

def sampleHost : LinkIdentity := ⟨2, 3, some 0⟩

def sampleSession : LinkIdentity := ⟨3, 2, some 0⟩

def sampleNamespace : NamespaceIdentity := ⟨4, 5⟩

/-- A delay is asked of an unrestricted direction: what is seen when the root reads as given after the command. -/
def sampleAttempt (root : RootQdisc) : List ShapingEvent :=
  [⟨.queryHostLink nllHost 9, ⟨.present, some sampleHost⟩⟩, ⟨.queryHostLink nllApp 9, ⟨.absent, none⟩⟩,
    ⟨.queryNamespaceLink sampleNamespace nllApp 9, ⟨.present, some sampleSession⟩⟩,
    ⟨.queryNamespaceQdisc sampleNamespace nllApp 9, ⟨.present, some { kind := .noqueue }⟩⟩,
    ⟨.queryTool (ascii "/usr/sbin/tc"), ⟨.present, ⟨true, 0, 0o755⟩⟩⟩,
    ⟨.runIpInNamespace (ascii "/usr/sbin/tc")
      [ascii "qdisc", ascii "add", ascii "dev", nllApp, ascii "root", ascii "handle", ascii "4e4c:", ascii "netem",
        ascii "delay", ascii "100ms"] sampleNamespace 9, { kind := .success }⟩,
    ⟨.queryNamespaceQdisc sampleNamespace nllApp 9, ⟨.present, some root⟩⟩]

def delayRoot : RootQdisc := { handle := ownedNetemHandle, kind := .netem, delayNanoseconds := 100000000 }

def mixedRoot : RootQdisc := { delayRoot with hasUnsupportedOptions := true }

/-- The rollback of a root with foreign options. -/
def mixedRun : List ShapingEvent :=
  sampleAttempt mixedRoot ++
    [⟨.runIpInNamespace (ascii "/usr/sbin/tc")
      [ascii "qdisc", ascii "del", ascii "dev", nllApp, ascii "root", ascii "handle", ascii "4e4c:"] sampleNamespace 9,
        { kind := .success }⟩,
      ⟨.queryNamespaceQdisc sampleNamespace nllApp 9, ⟨.present, some { kind := .noqueue }⟩⟩]

theorem setSettings_mixed : ¬ ∀ exactHandle identity direction current requested deadline trace result,
    Run (setSettings exactHandle identity direction current requested deadline) trace result →
    Sound (Installable direction) exactHandle identity direction current requested (trace.filterMap seen) result := by
  intro h
  have hrun : Run (setSettings (some sampleNamespace) (some ⟨sampleHost, sampleSession⟩) .outbound {} { delay := 100 } 9)
      mixedRun .restoredAfterFailure := run_of_follow (by decide +kernel)
  obtain ⟨⟨query, root, hquery, -, hroot, hinstallable⟩, -⟩ :=
    (h _ _ _ _ _ _ _ _ hrun).rollback ((mixedRun.filterMap seen).take 4) _ _
      [.qdisc (shapedLink .outbound sampleNamespace) ⟨.present, some mixedRoot⟩] _ _
      [.qdisc (shapedLink .outbound sampleNamespace) ⟨.present, some { kind := .noqueue }⟩] rfl
  obtain rfl := Option.some.inj hquery
  obtain rfl := Option.some.inj hroot
  exact not_installable rfl (Or.inl rfl) hinstallable

theorem setSettings_sound_delay : Sound (Installable .outbound) (some sampleNamespace)
    (some ⟨sampleHost, sampleSession⟩) .outbound {} { delay := 100 } ((sampleAttempt delayRoot).filterMap seen)
    .applied := by
  have hrun : Run (setSettings (some sampleNamespace) (some ⟨sampleHost, sampleSession⟩) .outbound {} { delay := 100 } 9)
      (sampleAttempt delayRoot) .applied := run_of_follow (by decide +kernel)
  refine (setSettings_sound_iff hrun).2.mpr fun query root hquery _ hroot _ _ hforeign => ?_
  obtain rfl := Option.some.inj hquery
  obtain rfl := Option.some.inj hroot
  have hown : ¬ Foreign delayRoot := by
    unfold Foreign
    decide
  exact absurd hforeign hown

end Sample

end NetLagLab.NetworkEnvironment
