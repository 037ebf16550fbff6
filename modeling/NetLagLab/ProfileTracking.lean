import NetLagLab.HelperSession

/-! The settings in force, as the adapter for Profile Changes has confirmed them and as the prepared environment records
them. The two records stay equal for as long as a direction is known, whatever the shaping of a direction comes to. -/

namespace NetLagLab

open CallPrograms CallPrograms.Program NetworkEnvironment HelperSession

/-! ### The record of the environment -/

/-- The calls of `set_direction_settings`: the clock, and `set_settings` of the adapter to the system. -/
inductive ShapingRequest where
  | now
  | setSettings (namespaceProof : NamespaceProof) (veth : PlacedVethProof) (direction : ShapingDirection)
      (current requested : DirectionSettings) (deadline : TimePoint)
  deriving DecidableEq

abbrev ShapingReply : ShapingRequest → Type
  | .now => TimePoint
  | .setSettings _ _ _ _ _ _ => ShapingChangeResult

/-- One call. -/
abbrev askShaping (request : ShapingRequest) : Program ShapingRequest ShapingReply (ShapingReply request) :=
  perform request

abbrev ShapingRun := List (Event ShapingRequest ShapingReply)

/-- A prepared environment, with what it knows of the settings of each direction. -/
structure PreparedNetworkEnvironment where
  owner : OwnerState
  outboundSettings : Option DirectionSettings := some {}
  inboundSettings : Option DirectionSettings := some {}
  deriving DecidableEq

namespace PreparedNetworkEnvironment

def settings (environment : PreparedNetworkEnvironment) : ShapingDirection → Option DirectionSettings
  | .outbound => environment.outboundSettings
  | .inbound => environment.inboundSettings

def withSettings (environment : PreparedNetworkEnvironment) (direction : ShapingDirection)
    (settings : Option DirectionSettings) : PreparedNetworkEnvironment :=
  match direction with
  | .outbound => { environment with outboundSettings := settings }
  | .inbound => { environment with inboundSettings := settings }

def setDirectionSettings (environment : PreparedNetworkEnvironment) (direction : ShapingDirection)
    (requested : DirectionSettings) :
    Program ShapingRequest ShapingReply (ShapingChangeResult × PreparedNetworkEnvironment) :=
  match environment.owner.namespaceProof, placedVeth? environment.owner.vethRoot with
  | some namespaceProof, some veth =>
      match environment.settings direction with
      | none => return (.stateUnknown, environment)
      | some current =>
          if current.same requested then return (.applied, environment)
          else do
            let now ← askShaping .now
            match ← askShaping (.setSettings namespaceProof veth direction current requested (now + operationLimit)) with
            | .applied => return (.applied, environment.withSettings direction (some requested))
            | .restoredAfterFailure => return (.restoredAfterFailure, environment)
            | .stateUnknown => return (.stateUnknown, environment.withSettings direction none)
  | _, _ => return (.stateUnknown, environment)

/-- The environment behind the answer of the system. -/
def recorded (environment : PreparedNetworkEnvironment) (direction : ShapingDirection)
    (requested : DirectionSettings) : ShapingChangeResult → PreparedNetworkEnvironment
  | .applied => environment.withSettings direction (some requested)
  | .restoredAfterFailure => environment
  | .stateUnknown => environment.withSettings direction none

variable (environment : PreparedNetworkEnvironment) (direction other : ShapingDirection)
  (settings : Option DirectionSettings)

@[simp] theorem settings_withSettings : (environment.withSettings direction settings).settings direction = settings := by
  cases direction <;> rfl

theorem settings_withSettings_ne (h : other ≠ direction) :
    (environment.withSettings direction settings).settings other = environment.settings other := by
  cases direction <;> cases other <;> first | rfl | exact absurd rfl h

@[simp] theorem owner_withSettings : (environment.withSettings direction settings).owner = environment.owner := by
  cases direction <;> rfl

end PreparedNetworkEnvironment

/-! ### The adapter over the environment -/

/-- The calls of the adapter, answered by the environment with the calls that it makes for them. -/
inductive Serves : PreparedNetworkEnvironment → List (Event HelperCall HelperAnswer) → ShapingRun →
    PreparedNetworkEnvironment → Prop
  | nothing (environment : PreparedNetworkEnvironment) : Serves environment [] [] environment
  | shape {environment middle after : PreparedNetworkEnvironment} {direction : ShapingDirection}
      {requested : DirectionSettings} {result : ShapingChangeResult} {calls more : ShapingRun}
      {trace : List (Event HelperCall HelperAnswer)}
      (run : Run (environment.setDirectionSettings direction requested) calls (result, middle))
      (rest : Serves middle trace more after) :
      Serves environment (⟨.setDirectionSettings direction requested, result⟩ :: trace) (calls ++ more) after

/-- The adapter's confirmed profile and the environment that it shapes. -/
structure TrackedProfile where
  confirmed : NetworkProfile := {}
  environment : PreparedNetworkEnvironment
  deriving DecidableEq

/-- A change is applied: the calls to the system, how it ends, and what is recorded then. -/
def Applies (before : TrackedProfile) (change : ProfileChange) (calls : ShapingRun)
    (completion : ProfileChangeCompletion) (after : TrackedProfile) : Prop :=
  ∃ trace, Run (applyChange before.confirmed change) trace (completion, after.confirmed) ∧
    Serves before.environment trace calls after.environment

/-- An environment as its preparation leaves it: the namespace is proven and the pair is placed. -/
def NetworkEnvironment.OwnerState.Prepared (owner : OwnerState) : Prop :=
  owner.namespaceProof.isSome = true ∧ (placedVeth? owner.vethRoot).isSome = true

/-- What a sequence of changes comes to, over a freshly prepared environment. -/
inductive Tracked (owner : OwnerState) : List ProfileChange → TrackedProfile → Prop
  | fresh (prepared : owner.Prepared) : Tracked owner [] { environment := { owner } }
  | change {changes : List ProfileChange} {before after : TrackedProfile} {calls : ShapingRun}
      {completion : ProfileChangeCompletion} (earlier : Tracked owner changes before) (change : ProfileChange)
      (applies : Applies before change calls completion after) : Tracked owner (changes ++ [change]) after

/-! ### One change -/

def TrafficDirection.shaping : TrafficDirection → ShapingDirection
  | .outbound => .outbound
  | .inbound => .inbound

def NetworkProfile.settings (profile : NetworkProfile) : ShapingDirection → DirectionSettings
  | .outbound => profile.outbound
  | .inbound => profile.inbound

section Profiles

variable {profile candidate : NetworkProfile} {change : ProfileChange} {settings : DirectionSettings}

theorem same_self_of_valid {direction : TrafficDirection} (h : validateDirection settings direction = []) :
    settings.same settings = true := by
  have hloss := ((validateDirection_eq_nil_iff settings direction).mp h).2.2.1.1
  simp [DirectionSettings.same, Double.same_self hloss]

theorem DirectionSettings.same_comm (left right : DirectionSettings) : left.same right = right.same left := by
  simp only [DirectionSettings.same, Double.same, eq_comm, Bool.and_comm]

theorem settings_same_self (h : validate profile = []) (direction : ShapingDirection) :
    (profile.settings direction).same (profile.settings direction) = true := by
  rw [validate_eq_nil_iff] at h
  cases direction with
  | outbound => exact same_self_of_valid h.1
  | inbound => exact same_self_of_valid h.2

theorem settings_changed (profile : NetworkProfile) (change : ProfileChange) :
    (profile.changed change).settings change.direction.shaping =
      change.applyTo (profile.settings change.direction.shaping) := by
  unfold NetworkProfile.changed
  cases change.direction <;> rfl

/-- A change leaves the other direction as it is. -/
theorem settings_changed_ne (profile : NetworkProfile) {direction : ShapingDirection}
    (h : direction ≠ change.direction.shaping) :
    (profile.changed change).settings direction = profile.settings direction := by
  unfold NetworkProfile.changed
  cases hdirection : change.direction <;> cases direction <;>
    first
    | rfl
    | exact absurd (by rw [hdirection]; rfl) h

/-- Only a change of the bandwidth touches it. -/
theorem bandwidth_applyTo (h : changesBandwidth change = false) (settings : DirectionSettings) :
    (change.applyTo settings).bandwidthKbps = settings.bandwidthKbps := by
  cases change with
  | setBandwidth => exact nomatch h
  | resetSetting direction setting =>
      cases setting with
      | bandwidth => exact nomatch h
      | _ => rfl
  | _ => rfl

theorem applyProfileChange_ok (h : applyProfileChange profile change = .ok candidate) :
    candidate = profile.changed change ∧ validate candidate = [] := by
  refine ⟨?_, validate_of_applyProfileChange h⟩
  rw [applyProfileChange] at h
  split at h
  · cases h
  · exact (Except.ok.inj h).symm

end Profiles

/-- The two records agree, and shaping can be asked for. -/
structure TrackedProfile.Inv (state : TrackedProfile) : Prop where
  prepared : state.environment.owner.Prepared
  valid : validate state.confirmed = []
  unlimited : ∀ direction, (state.confirmed.settings direction).bandwidthKbps = none
  agrees : ∀ direction settings, state.environment.settings direction = some settings →
    settings = state.confirmed.settings direction

def NetworkEnvironment.ShapingChangeResult.completion : ShapingChangeResult → ProfileChangeCompletion
  | .applied => .applied
  | .restoredAfterFailure => .restoredAfterFailure
  | .stateUnknown => .stateUnknown

/-- Both records behind the answer of the system. -/
def TrackedProfile.answered (state : TrackedProfile) (direction : ShapingDirection) (candidate : NetworkProfile)
    (answer : ShapingChangeResult) : TrackedProfile where
  confirmed := if answer = .applied then candidate else state.confirmed
  environment := state.environment.recorded direction (candidate.settings direction) answer

/-- What a change can come to. Only the last case asks the system, for the direction that the change names. -/
inductive Course (before : TrackedProfile) (change : ProfileChange) :
    ShapingRun → ProfileChangeCompletion → TrackedProfile → Prop
  | refused {errors : List ValidationError} (invalid : applyProfileChange before.confirmed change = .error errors) :
      Course before change [] .restoredAfterFailure before
  | limited (bandwidth : changesBandwidth change = true) : Course before change [] .restoredAfterFailure before
  | nothing (valid : applyProfileChange before.confirmed change = .ok (before.confirmed.changed change))
      (same : ((before.confirmed.changed change).settings change.direction.shaping).same
        (before.confirmed.settings change.direction.shaping) = true) :
      Course before change [] .applied before
  | unknown (lost : before.environment.settings change.direction.shaping = none) :
      Course before change [] .stateUnknown before
  | shaped (namespaceProof : NamespaceProof) (veth : PlacedVethProof) (now : TimePoint) (answer : ShapingChangeResult)
      (valid : applyProfileChange before.confirmed change = .ok (before.confirmed.changed change))
      (kind : changesBandwidth change = false)
      (known : before.environment.settings change.direction.shaping =
        some (before.confirmed.settings change.direction.shaping)) :
      Course before change
        [⟨.now, now⟩, ⟨.setSettings namespaceProof veth change.direction.shaping
          (before.confirmed.settings change.direction.shaping)
          ((before.confirmed.changed change).settings change.direction.shaping) (now + operationLimit), answer⟩]
        answer.completion
        (before.answered change.direction.shaping (before.confirmed.changed change) answer)

section Changes

variable {before after : TrackedProfile} {change : ProfileChange} {calls : ShapingRun}
  {completion : ProfileChangeCompletion} {environment middle : PreparedNetworkEnvironment}
  {direction : ShapingDirection} {requested current : DirectionSettings} {result : ShapingChangeResult}

/-- What a prepared environment does with settings that differ from those it records. -/
theorem setDirectionSettings_course (hprepared : environment.owner.Prepared)
    (hcurrent : ∀ current, environment.settings direction = some current → current.same requested = false)
    (h : Run (environment.setDirectionSettings direction requested) calls (result, middle)) :
    (environment.settings direction = none ∧ calls = [] ∧ result = .stateUnknown ∧ middle = environment) ∨
    ∃ current namespaceProof veth now, environment.settings direction = some current ∧
      calls = [⟨.now, now⟩, ⟨.setSettings namespaceProof veth direction current requested (now + operationLimit), result⟩] ∧
      middle = environment.recorded direction requested result := by
  obtain ⟨namespaceProof, hnamespace⟩ := Option.isSome_iff_exists.mp hprepared.1
  obtain ⟨veth, hveth⟩ := Option.isSome_iff_exists.mp hprepared.2
  unfold PreparedNetworkEnvironment.setDirectionSettings at h
  rw [hnamespace, hveth] at h
  dsimp only at h
  cases hsettings : environment.settings direction with
  | none =>
      rw [hsettings] at h
      obtain ⟨rfl, heq⟩ := run_done.mp h
      rw [Prod.mk.injEq] at heq
      exact .inl ⟨rfl, rfl, heq.1, heq.2⟩
  | some current =>
      rw [hsettings] at h
      dsimp only at h
      rw [if_neg (Bool.eq_false_iff.mp (hcurrent current hsettings)), bind_perform] at h
      obtain ⟨now, rest, rfl, hasked⟩ := run_call.mp h
      obtain ⟨answer, last, rfl, hended⟩ := run_call.mp hasked
      refine .inr ⟨current, namespaceProof, veth, now, rfl, ?_⟩
      cases answer <;>
      · obtain ⟨rfl, heq⟩ := run_done.mp hended
        rw [Prod.mk.injEq] at heq
        rw [heq.1]
        exact ⟨rfl, heq.2⟩

/-- A change of a profile in force names the only direction that can differ. -/
theorem exists_same (hvalid : validate before.confirmed = []) {other : ShapingDirection}
    (hother : other ≠ change.direction.shaping) :
    ((before.confirmed.changed change).settings other).same (before.confirmed.settings other) = true := by
  rw [settings_changed_ne before.confirmed hother]
  exact settings_same_self hvalid other

theorem ended_of_done {trace : List (Event HelperCall HelperAnswer)} {ended : ProfileChangeCompletion}
    {profile confirmed : NetworkProfile} (h : Run (.done (ended, confirmed)) trace (completion, profile)) :
    trace = [] ∧ completion = ended ∧ profile = confirmed := by
  obtain ⟨rfl, heq⟩ := run_done.mp h
  exact ⟨rfl, Prod.mk.injEq .. ▸ heq⟩

/-- A change that the adapter ends by itself. -/
theorem eq_of_done {trace : List (Event HelperCall HelperAnswer)} {ended : ProfileChangeCompletion}
    (hrun : Run (.done (ended, before.confirmed)) trace (completion, after.confirmed))
    (hserves : Serves before.environment trace calls after.environment) :
    calls = [] ∧ completion = ended ∧ after = before := by
  obtain ⟨confirmed, environment⟩ := after
  obtain ⟨rfl, rfl, rfl⟩ := ended_of_done hrun
  cases hserves
  exact ⟨rfl, rfl, rfl⟩

/-- A change of one direction, on its way through both records. -/
theorem course_shaped (hinv : before.Inv) (hkind : changesBandwidth change = false)
    (hvalid : applyProfileChange before.confirmed change = .ok (before.confirmed.changed change))
    (hdirection : change.direction.shaping = direction)
    (hdiffers : ((before.confirmed.changed change).settings direction).same (before.confirmed.settings direction) = false)
    {trace : List (Event HelperCall HelperAnswer)} {answer : ShapingChangeResult}
    (hserves : Serves before.environment
      (⟨.setDirectionSettings direction ((before.confirmed.changed change).settings direction), answer⟩ :: trace) calls
      after.environment)
    (hended : trace = [] ∧ completion = answer.completion ∧
      after.confirmed = if answer = .applied then before.confirmed.changed change else before.confirmed) :
    Course before change calls completion after := by
  subst hdirection
  obtain ⟨rfl, rfl, hconfirmed⟩ := hended
  obtain ⟨confirmed, environment⟩ := after
  obtain rfl : confirmed = _ := hconfirmed
  have hcurrent : ∀ current, before.environment.settings change.direction.shaping = some current →
      current.same ((before.confirmed.changed change).settings change.direction.shaping) = false := by
    intro current hsettings
    rw [hinv.agrees _ _ hsettings, DirectionSettings.same_comm]
    exact hdiffers
  cases hserves with
  | shape run rest =>
      cases rest
      rw [List.append_nil]
      rcases setDirectionSettings_course hinv.prepared hcurrent run with
        ⟨hlost, rfl, rfl, rfl⟩ | ⟨current, namespaceProof, veth, now, hsettings, rfl, rfl⟩
      · exact .unknown hlost
      · obtain rfl := hinv.agrees _ _ hsettings
        exact .shaped namespaceProof veth now answer hvalid hkind hsettings

theorem unlimited_changed (hinv : before.Inv) (hkind : changesBandwidth change = false) :
    (before.confirmed.changed change).outbound.bandwidthKbps = none ∧
      (before.confirmed.changed change).inbound.bandwidthKbps = none := by
  have hnone : ∀ direction, ((before.confirmed.changed change).settings direction).bandwidthKbps = none := by
    intro direction
    by_cases hdirection : direction = change.direction.shaping
    · rw [hdirection, settings_changed, bandwidth_applyTo hkind]
      exact hinv.unlimited _
    · rw [settings_changed_ne before.confirmed hdirection]
      exact hinv.unlimited _
  exact ⟨hnone .outbound, hnone .inbound⟩

/-- Every change takes one of these courses. -/
theorem Applies.course (h : Applies before change calls completion after) (hinv : before.Inv) :
    Course before change calls completion after := by
  obtain ⟨trace, hrun, hserves⟩ := h
  unfold applyChange at hrun
  cases happly : applyProfileChange before.confirmed change with
  | error errors =>
      rw [happly] at hrun
      obtain ⟨rfl, rfl, rfl⟩ := eq_of_done hrun hserves
      exact .refused happly
  | ok candidate =>
      obtain ⟨rfl, hvalid⟩ := applyProfileChange_ok happly
      rw [happly] at hrun
      dsimp only at hrun
      split at hrun
      · rename_i hlimited
        obtain ⟨rfl, rfl, rfl⟩ := eq_of_done hrun hserves
        refine .limited (Bool.eq_true_of_not_eq_false fun hkind => ?_)
        obtain ⟨houtbound, hinbound⟩ := unlimited_changed hinv hkind
        rw [hkind, houtbound, hinbound] at hlimited
        exact nomatch hlimited
      · rename_i hfree
        rw [Bool.or_eq_true, Bool.or_eq_true, not_or, not_or, Bool.not_eq_true] at hfree
        have hkind := hfree.1.1
        cases hdirection : change.direction.shaping with
        | outbound =>
            have hinbound : (before.confirmed.changed change).inbound.same before.confirmed.inbound = true :=
              exists_same hinv.valid (show ShapingDirection.inbound ≠ _ by rw [hdirection]; decide)
            rw [hinbound] at hrun
            cases hsame : (before.confirmed.changed change).outbound.same before.confirmed.outbound with
            | true =>
                rw [hsame] at hrun
                obtain ⟨rfl, rfl, rfl⟩ := eq_of_done hrun hserves
                exact .nothing happly (by rw [hdirection]; exact hsame)
            | false =>
                rw [hsame] at hrun
                obtain ⟨answer, rest, rfl, hended⟩ := run_call.mp hrun
                refine course_shaped hinv hkind happly hdirection hsame hserves ?_
                cases answer <;> exact ended_of_done hended
        | inbound =>
            have houtbound : (before.confirmed.changed change).outbound.same before.confirmed.outbound = true :=
              exists_same hinv.valid (show ShapingDirection.outbound ≠ _ by rw [hdirection]; decide)
            rw [houtbound] at hrun
            cases hsame : (before.confirmed.changed change).inbound.same before.confirmed.inbound with
            | true =>
                rw [hsame] at hrun
                obtain ⟨rfl, rfl, rfl⟩ := eq_of_done hrun hserves
                exact .nothing happly (by rw [hdirection]; exact hsame)
            | false =>
                rw [hsame] at hrun
                obtain ⟨answer, rest, rfl, hended⟩ := run_call.mp hrun
                refine course_shaped hinv hkind happly hdirection hsame hserves ?_
                cases answer <;> exact ended_of_done hended

theorem TrackedProfile.Inv.answered (hinv : before.Inv) (hkind : changesBandwidth change = false)
    (hvalid : validate (before.confirmed.changed change) = []) (answer : ShapingChangeResult) :
    (before.answered change.direction.shaping (before.confirmed.changed change) answer).Inv := by
  have hunlimited := unlimited_changed hinv hkind
  cases answer with
  | restoredAfterFailure => exact hinv
  | stateUnknown =>
      refine ⟨?_, hinv.valid, hinv.unlimited, fun direction settings hsettings => ?_⟩
      · exact (before.environment.owner_withSettings _ _).symm ▸ hinv.prepared
      · by_cases hdirection : direction = change.direction.shaping
        · subst hdirection
          exact nomatch (before.environment.settings_withSettings _ _).symm.trans hsettings
        · exact hinv.agrees _ _ ((before.environment.settings_withSettings_ne _ _ _ hdirection).symm.trans hsettings)
  | applied =>
      refine ⟨?_, hvalid, fun direction => ?_, fun direction settings hsettings => ?_⟩
      · exact (before.environment.owner_withSettings _ _).symm ▸ hinv.prepared
      · cases direction with
        | outbound => exact hunlimited.1
        | inbound => exact hunlimited.2
      · by_cases hdirection : direction = change.direction.shaping
        · subst hdirection
          exact (Option.some.inj ((before.environment.settings_withSettings _ _).symm.trans hsettings)).symm
        · have hearlier := hinv.agrees _ _
            ((before.environment.settings_withSettings_ne _ _ _ hdirection).symm.trans hsettings)
          exact hearlier.trans (settings_changed_ne before.confirmed hdirection).symm

theorem Course.inv (h : Course before change calls completion after) (hinv : before.Inv) : after.Inv := by
  cases h with
  | shaped namespaceProof veth now answer valid kind known =>
      exact hinv.answered kind (applyProfileChange_ok valid).2 answer
  | _ => exact hinv

theorem Tracked.inv {owner : OwnerState} {changes : List ProfileChange} {state : TrackedProfile}
    (h : Tracked owner changes state) : state.Inv := by
  induction h with
  | fresh prepared =>
      refine ⟨prepared, validate_default, fun direction => by cases direction <;> rfl, fun direction settings hsettings => ?_⟩
      cases direction <;> exact (Option.some.inj hsettings).symm
  | change earlier change applies ih => exact (applies.course ih).inv ih

/-- The change asks for a delay, a jitter or a loss that differs from the settings. -/
def ProfileChange.Differs (change : ProfileChange) (settings : DirectionSettings) : Prop :=
  (change.applyTo settings).delay ≠ settings.delay ∨ (change.applyTo settings).jitter ≠ settings.jitter ∨
    (change.applyTo settings).packetLossPercent.same settings.packetLossPercent = false

theorem ProfileChange.Differs.kind {settings : DirectionSettings} (h : change.Differs settings)
    (hvalid : settings.packetLossPercent.same settings.packetLossPercent = true) :
    changesBandwidth change = false ∧ (change.applyTo settings).same settings = false := by
  constructor
  · cases change with
    | setBandwidth => simp [ProfileChange.Differs, ProfileChange.applyTo, hvalid] at h
    | resetSetting direction setting =>
        cases setting with
        | bandwidth => simp [ProfileChange.Differs, ProfileChange.applyTo, hvalid] at h
        | _ => rfl
    | _ => rfl
  · rcases h with hdelay | hjitter | hloss
    · simp [DirectionSettings.same, hdelay]
    · simp [DirectionSettings.same, hjitter]
    · simp [DirectionSettings.same, hloss]

theorem loss_same_self (h : validate before.confirmed = []) (direction : ShapingDirection) :
    (before.confirmed.settings direction).packetLossPercent.same
      (before.confirmed.settings direction).packetLossPercent = true := by
  have hsame := settings_same_self h direction
  simp only [DirectionSettings.same, Bool.and_eq_true] at hsame
  exact hsame.1.2

/-- The system is asked for the direction that the change names, and never for a bandwidth. -/
theorem Course.asks (h : Course before change calls completion after) (hinv : before.Inv) :
    ∀ event ∈ calls, ∀ namespaceProof veth direction current requested deadline,
      event.request = .setSettings namespaceProof veth direction current requested deadline →
      direction = change.direction.shaping ∧ current.bandwidthKbps = none ∧ requested.bandwidthKbps = none := by
  cases h with
  | shaped namespaceProof veth now answer valid kind known =>
      simp only [List.forall_mem_cons, List.not_mem_nil, false_imp_iff, implies_true, and_true]
      refine ⟨(fun _ _ _ _ _ _ hrequest => nomatch hrequest), fun _ _ _ _ _ _ hrequest => ?_⟩
      obtain ⟨-, -, rfl, rfl, rfl, -⟩ := ShapingRequest.setSettings.inj hrequest
      refine ⟨rfl, hinv.unlimited _, ?_⟩
      rw [settings_changed, bandwidth_applyTo kind]
      exact hinv.unlimited _
  | _ => exact fun _ hmem => nomatch hmem

/-- While both directions are known, a change is in both records or in none. -/
theorem Course.known (h : Course before change calls completion after) (hinv : before.Inv)
    (hknown : ∀ direction, before.environment.settings direction ≠ none) :
    (completion = .restoredAfterFailure → after = before) ∧
    (completion = .applied → ∃ candidate, applyProfileChange before.confirmed change = .ok candidate ∧
      ∀ direction, (candidate.settings direction).same (after.confirmed.settings direction) = true ∧
        after.environment.settings direction = some (after.confirmed.settings direction)) := by
  have hrecorded : ∀ direction,
      before.environment.settings direction = some (before.confirmed.settings direction) := by
    intro direction
    obtain ⟨settings, hsettings⟩ := Option.ne_none_iff_exists'.mp (hknown direction)
    rw [hsettings, hinv.agrees direction settings hsettings]
  have hother : ∀ direction, direction ≠ change.direction.shaping →
      ((before.confirmed.changed change).settings direction).same (before.confirmed.settings direction) = true :=
    fun _ hdirection => exists_same hinv.valid hdirection
  cases h with
  | refused => exact ⟨fun _ => rfl, fun happlied => nomatch happlied⟩
  | limited => exact ⟨fun _ => rfl, fun happlied => nomatch happlied⟩
  | unknown lost => exact absurd lost (hknown _)
  | nothing valid same =>
      refine ⟨(fun hrestored => nomatch hrestored), fun _ => ⟨_, valid, fun direction => ⟨?_, hrecorded direction⟩⟩⟩
      by_cases hdirection : direction = change.direction.shaping
      · exact hdirection ▸ same
      · exact hother direction hdirection
  | shaped namespaceProof veth now answer valid kind known =>
      refine ⟨fun hrestored => ?_, fun happlied => ⟨_, valid, fun direction => ?_⟩⟩
      · cases answer with
        | restoredAfterFailure => rfl
        | _ => exact nomatch hrestored
      · cases answer with
        | applied =>
            refine ⟨settings_same_self (applyProfileChange_ok valid).2 direction, ?_⟩
            by_cases hdirection : direction = change.direction.shaping
            · subst hdirection
              exact before.environment.settings_withSettings _ _
            · refine (before.environment.settings_withSettings_ne _ _ _ hdirection).trans ?_
              rw [hrecorded direction]
              exact congrArg some (settings_changed_ne before.confirmed hdirection).symm
        | _ => exact nomatch happlied

/-- A direction that is unknown stays so, and a change of it that could be applied is not. -/
theorem Course.lost (h : Course before change calls completion after) (hinv : before.Inv) {direction : ShapingDirection}
    (hlost : before.environment.settings direction = none) :
    after.environment.settings direction = none ∧
    (change.direction.shaping = direction → change.Differs (before.confirmed.settings direction) →
      (∃ candidate, applyProfileChange before.confirmed change = .ok candidate) → completion = .stateUnknown) := by
  have hkind : change.direction.shaping = direction → change.Differs (before.confirmed.settings direction) →
      changesBandwidth change = false ∧ (change.applyTo (before.confirmed.settings direction)).same
        (before.confirmed.settings direction) = false :=
    fun _ hdiffers => hdiffers.kind (loss_same_self hinv.valid direction)
  cases h with
  | refused invalid =>
      refine ⟨hlost, fun _ _ hvalid => ?_⟩
      obtain ⟨candidate, hcandidate⟩ := hvalid
      exact nomatch invalid.symm.trans hcandidate
  | limited bandwidth =>
      exact ⟨hlost, fun hdirection hdiffers _ => nomatch bandwidth.symm.trans (hkind hdirection hdiffers).1⟩
  | nothing valid same =>
      refine ⟨hlost, fun hdirection hdiffers _ => ?_⟩
      subst hdirection
      rw [settings_changed] at same
      exact nomatch same.symm.trans (hkind rfl hdiffers).2
  | unknown => exact ⟨hlost, fun _ _ _ => rfl⟩
  | shaped namespaceProof veth now answer valid kind known =>
      have hne : direction ≠ change.direction.shaping := by
        rintro rfl
        exact nomatch hlost.symm.trans known
      refine ⟨?_, fun hdirection => absurd hdirection.symm hne⟩
      have hkept : ∀ settings, (before.environment.withSettings change.direction.shaping settings).settings direction =
          none := fun settings => (before.environment.settings_withSettings_ne _ _ _ hne).trans hlost
      cases answer with
      | restoredAfterFailure => exact hlost
      | applied => exact hkept _
      | stateUnknown => exact hkept _

end Changes

/-- The adapter and the environment record the same settings of every direction that is known. The system is asked for
the direction that a change names, and never for a bandwidth. While both directions are known, a change that is restored
leaves the records and one that is applied is in both of them, up to the sign of a zero loss; no change touches two
directions. A direction that is unknown stays so, and a valid change that differs in it has no known end. -/
theorem tracked_profiles {owner : OwnerState} {changes : List ProfileChange} {state : TrackedProfile}
    (h : Tracked owner changes state) :
    (∀ direction settings, state.environment.settings direction = some settings →
      settings = state.confirmed.settings direction) ∧
    (∀ change candidate, applyProfileChange state.confirmed change = .ok candidate →
      ¬ (candidate.outbound.same state.confirmed.outbound = false ∧
        candidate.inbound.same state.confirmed.inbound = false)) ∧
    ∀ change calls completion after, Applies state change calls completion after →
      (∀ event ∈ calls, ∀ namespaceProof veth direction current requested deadline,
        event.request = .setSettings namespaceProof veth direction current requested deadline →
        direction = change.direction.shaping ∧ current.bandwidthKbps = none ∧ requested.bandwidthKbps = none) ∧
      ((∀ direction, state.environment.settings direction ≠ none) →
        (completion = .restoredAfterFailure → after = state) ∧
        (completion = .applied → ∃ candidate, applyProfileChange state.confirmed change = .ok candidate ∧
          ∀ direction, (candidate.settings direction).same (after.confirmed.settings direction) = true ∧
            after.environment.settings direction = some (after.confirmed.settings direction))) ∧
      ∀ direction, state.environment.settings direction = none →
        after.environment.settings direction = none ∧
        (change.direction.shaping = direction → change.Differs (state.confirmed.settings direction) →
          (∃ candidate, applyProfileChange state.confirmed change = .ok candidate) → completion = .stateUnknown) := by
  have hinv := h.inv
  refine ⟨hinv.agrees, fun change candidate hcandidate hboth => ?_, fun change calls completion after happlies => ?_⟩
  · obtain ⟨rfl, -⟩ := applyProfileChange_ok hcandidate
    cases hdirection : change.direction.shaping with
    | outbound =>
        have hother := exists_same hinv.valid (show ShapingDirection.inbound ≠ change.direction.shaping by rw [hdirection]; decide)
        exact nomatch hother.symm.trans hboth.2
    | inbound =>
        have hother := exists_same hinv.valid (show ShapingDirection.outbound ≠ change.direction.shaping by rw [hdirection]; decide)
        exact nomatch hother.symm.trans hboth.1
  · have hcourse := happlies.course hinv
    exact ⟨hcourse.asks hinv, hcourse.known hinv, fun direction hlost => hcourse.lost hinv hlost⟩

/-! ### A direction that is lost -/

def preparedOwner : OwnerState where
  namespaceRoot := .proven ⟨⟨4, 5⟩⟩
  vethRoot := .proven (.placed ⟨⟨⟨2, 3, some 0⟩, ⟨3, 2, some 0⟩⟩⟩)

/-- The outbound direction became unknown, before anything was confirmed. -/
def lostOutbound : TrackedProfile where
  environment := { owner := preparedOwner, outboundSettings := none }

theorem lostOutbound_tracked : Tracked preparedOwner [.setDelay .outbound 5] lostOutbound := by
  have hfresh : Tracked preparedOwner [] { environment := { owner := preparedOwner } } :=
    .fresh ⟨rfl, rfl⟩
  have hshaping : Run
      (PreparedNetworkEnvironment.setDirectionSettings { owner := preparedOwner } .outbound { delay := 5 })
      [⟨.now, 0⟩, ⟨.setSettings ⟨⟨4, 5⟩⟩ ⟨⟨⟨2, 3, some 0⟩, ⟨3, 2, some 0⟩⟩⟩ .outbound {} { delay := 5 } operationLimit,
        .stateUnknown⟩]
      (.stateUnknown, lostOutbound.environment) := run_of_follow (by decide)
  have hadapter : Run (applyChange {} (.setDelay .outbound 5))
      [⟨.setDirectionSettings .outbound { delay := 5 }, .stateUnknown⟩] (.stateUnknown, {}) :=
    run_of_follow (by decide)
  exact hfresh.change (.setDelay .outbound 5) ⟨_, hadapter, .shape hshaping (.nothing _)⟩

theorem tracked_profiles_lost :
    Applies lostOutbound (.setDelay .outbound 7) [] .stateUnknown lostOutbound ∧
    lostOutbound.environment.settings .outbound = none := by
  have happlies : Applies lostOutbound (.setDelay .outbound 7) [] .stateUnknown lostOutbound := by
    have hunasked : Run (lostOutbound.environment.setDirectionSettings .outbound { delay := 7 }) []
        (.stateUnknown, lostOutbound.environment) := run_of_follow rfl
    exact ⟨[⟨.setDirectionSettings .outbound { delay := 7 }, .stateUnknown⟩], run_of_follow (by decide),
      .shape hunasked (.nothing _)⟩
  exact ⟨happlies, (((tracked_profiles lostOutbound_tracked).2.2 _ _ _ _ happlies).2.2 .outbound rfl).1⟩

/-- A change that the profile refuses is told apart from one that could not be applied. -/
theorem not_tracked_profiles_invalid :
    ¬ ∀ owner changes state change calls completion after, Tracked owner changes state →
      Applies state change calls completion after →
      ∀ direction, state.environment.settings direction = none → change.direction.shaping = direction →
        change.Differs (state.confirmed.settings direction) → completion = .stateUnknown := by
  intro h
  have hrefused : Applies lostOutbound (.setDelay .outbound (-1)) [] .restoredAfterFailure lostOutbound :=
    ⟨[], run_of_follow (by decide), .nothing _⟩
  have hdiffers : (ProfileChange.setDelay .outbound (-1)).Differs {} := .inl (by decide)
  exact nomatch h _ _ _ _ _ _ _ lostOutbound_tracked hrefused .outbound rfl rfl hdiffers

end NetLagLab
