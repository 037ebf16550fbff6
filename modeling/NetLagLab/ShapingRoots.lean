import NetLagLab.Shaping

/-! The roots that shape a direction: what a root shows of settings, and which roots the tool's own commands can leave.
Every loss probability of the kernel is that of a percentage, and so the tool can leave any netem under its handle that
is not foreign. -/

namespace NetLagLab.NetworkEnvironment

open ByteLines

/-! ### What a root shows -/

def Unrestricted (settings : DirectionSettings) : Prop :=
  settings.delay = 0 ∧ settings.jitter = 0 ∧ settings.packetLossPercent.isZero = true ∧ settings.bandwidthKbps = none

/-- A netem root of the tool's own with exactly the settings, and nothing besides. -/
structure Shaped (root : RootQdisc) (settings : DirectionSettings) : Prop where
  kind : root.kind = .netem
  handle : root.handle = ownedNetemHandle
  delay : (root.delayNanoseconds.toNat : Int) = settings.delay.toInt * 1000000
  jitter : (root.jitterNanoseconds.toNat : Int) = settings.jitter.toInt * 1000000
  loss : lossProbability settings.packetLossPercent = some root.lossProbability
  bandwidth : settings.bandwidthKbps = none
  unmixed : root.hasUnsupportedOptions = false

/-- The root is just what the settings ask for. -/
def Carries (root : RootQdisc) (settings : DirectionSettings) : Prop :=
  Unrestricted settings ∧ root.kind = .noqueue ∧ root.handle = 0 ∨ ¬ Unrestricted settings ∧ Shaped root settings

def Shows (query : QdiscQuery) (settings : DirectionSettings) : Prop :=
  query.status = .present ∧ ∃ root, query.root = some root ∧ Carries root settings

/-- A root that the tool's own commands can leave: one of them asks for just this root. -/
def Installable [DecimalText] (direction : ShapingDirection) (root : RootQdisc) : Prop :=
  ∃ settings arguments, makeArguments direction (ascii "add") settings = some arguments ∧ Carries root settings

/-- Netem that no settings ask for: with options of others, with a part of a millisecond, or without any effect. -/
def Foreign (root : RootQdisc) : Prop :=
  root.hasUnsupportedOptions = true ∨ ¬ 1000000 ∣ root.delayNanoseconds.toNat ∨
    ¬ 1000000 ∣ root.jitterNanoseconds.toNat ∨
    root.delayNanoseconds = 0 ∧ root.jitterNanoseconds = 0 ∧ root.lossProbability = 0

theorem toNat_toUInt64_of_nonneg {value : Int64} (h : ¬ value < 0) : (value.toUInt64.toNat : Int) = value.toInt := by
  have hle : (0 : Int64) ≤ value := Int64.not_lt.mp h
  have hnonneg := Int64.le_iff_toInt_le.mp hle
  have hzero : (0 : Int64).toInt = 0 := rfl
  rw [Int64.toNat_toUInt64_of_le hle, Int64.toNatClampNeg]
  exact Int.toNat_of_nonneg (hzero ▸ hnonneg)

/-- The nanoseconds are exact, or there are none. -/
theorem nanoseconds_eq_some_iff {value : Int64} {result : UInt64} :
    nanoseconds value = some result ↔ (result.toNat : Int) = value.toInt * 1000000 := by
  have hzero : (0 : Int64).toInt = 0 := rfl
  have hresult := result.toNat_lt
  unfold nanoseconds
  split
  · rename_i hneg
    rw [Int64.lt_iff_toInt_lt] at hneg
    refine ⟨(fun h => nomatch h), fun h => ?_⟩
    omega
  · rename_i hpos
    have hcount := toNat_toUInt64_of_nonneg hpos
    have hmax : ((0xFFFFFFFFFFFFFFFF : UInt64) / nanosecondsPerMillisecond).toNat = 18446744073709 := by decide
    have hmillion : nanosecondsPerMillisecond.toNat = 1000000 := rfl
    dsimp only
    split
    · rename_i hlarge
      rw [UInt64.lt_iff_toNat_lt, hmax] at hlarge
      refine ⟨(fun h => nomatch h), fun h => ?_⟩
      omega
    · rename_i hsmall
      rw [UInt64.lt_iff_toNat_lt, hmax, Nat.not_lt] at hsmall
      have hproduct : (value.toUInt64 * nanosecondsPerMillisecond).toNat = value.toUInt64.toNat * 1000000 := by
        rw [UInt64.toNat_mul, hmillion]
        omega
      rw [Option.some.injEq, ← UInt64.toNat_inj, hproduct]
      omega

/-- A whole number of milliseconds is a setting. -/
theorem toInt_milliseconds {value : UInt64} (h : 1000000 ∣ value.toNat) :
    (value.toNat : Int) = (Int64.ofNat (value.toNat / 1000000)).toInt * 1000000 := by
  have hless := value.toNat_lt
  rw [Int64.toInt_ofNat_of_lt (by omega)]
  omega

theorem eq_zero_of_toInt_milliseconds {value : Int64}
    (h : ((0 : UInt64).toNat : Int) = value.toInt * 1000000) : value = 0 := by
  have hzero : (0 : Int64).toInt = 0 := rfl
  have hnone : (0 : UInt64).toNat = 0 := rfl
  rw [hnone] at h
  exact Int64.toInt_inj.mp (by omega)

theorem unrestricted_iff {settings : DirectionSettings} : unrestricted settings = true ↔ Unrestricted settings := by
  simp [unrestricted, Unrestricted, and_assoc]

theorem qdiscMatches_iff {root : RootQdisc} {settings : DirectionSettings} :
    qdiscMatches root settings = true ↔ Carries root settings := by
  unfold qdiscMatches Carries
  split
  · rename_i hfree
    have hplain := unrestricted_iff.mp hfree
    simp [hplain]
  · rename_i hfree
    have hplain : ¬ Unrestricted settings := mt unrestricted_iff.mpr hfree
    constructor
    · intro h
      split at h
      · rename_i delay jitter loss hdelay hjitter hloss
        simp only [Bool.and_eq_true, Option.isNone_iff_eq_none, Bool.not_eq_true', decide_eq_true_eq] at h
        obtain ⟨⟨⟨⟨⟨⟨hbandwidth, hunmixed⟩, hkind⟩, hhandle⟩, rfl⟩, rfl⟩, rfl⟩ := h
        exact Or.inr ⟨hplain, hkind, hhandle, nanoseconds_eq_some_iff.mp hdelay, nanoseconds_eq_some_iff.mp hjitter,
          hloss, hbandwidth, hunmixed⟩
      · exact nomatch h
    · rintro (⟨hcontra, -⟩ | ⟨-, h⟩)
      · exact absurd hcontra hplain
      · rw [nanoseconds_eq_some_iff.mpr h.delay, nanoseconds_eq_some_iff.mpr h.jitter, h.loss]
        simp [h.bandwidth, h.unmixed, h.kind, h.handle]

theorem shownRoot_eq_some_iff {query : QdiscQuery} {settings : DirectionSettings} {root : RootQdisc} :
    shownRoot query settings = some root ↔ query.status = .present ∧ query.root = some root ∧ Carries root settings := by
  unfold shownRoot
  split
  · rename_i hpresent
    rw [Option.filter_eq_some_iff, qdiscMatches_iff]
    exact (and_iff_right hpresent).symm
  · rename_i hmissing
    exact ⟨(fun h => nomatch h), fun h => absurd h.1 hmissing⟩

theorem queryMatches_iff {query : QdiscQuery} {settings : DirectionSettings} :
    queryMatches query settings = true ↔ Shows query settings := by
  rw [queryMatches, Option.isSome_iff_exists]
  simp only [shownRoot_eq_some_iff, Shows, exists_and_left]

/-! ### Equal settings -/

theorem isZero_iff {value : Double} : value.isZero = true ↔ value.magnitude = 0 := by
  simp [Double.isZero]

/-- Both zeros are lost alike. -/
theorem lossProbability_of_isZero {percentage : Double} (h : percentage.isZero = true) :
    lossProbability percentage = some 0 := by
  have hmagnitude := isZero_iff.mp h
  unfold lossProbability
  rw [if_neg, hmagnitude, Binary64.divide_zero, Binary64.multiply_zero, Binary64.rint_zero]
  · rfl
  · simp [Double.isFinite, Double.isNegative, Double.exceedsHundred, hmagnitude, h]

theorem lossProbability_congr {left right : Double} (h : left.same right = true) :
    lossProbability left = lossProbability right := by
  simp only [Double.same, Bool.and_eq_true, Bool.or_eq_true, decide_eq_true_eq] at h
  obtain ⟨-, rfl | ⟨hleft, hright⟩⟩ := h
  · rfl
  · rw [lossProbability_of_isZero hleft, lossProbability_of_isZero hright]

theorem isZero_congr {left right : Double} (h : left.same right = true) : left.isZero = right.isZero := by
  simp only [Double.same, Bool.and_eq_true, Bool.or_eq_true, decide_eq_true_eq] at h
  obtain ⟨-, rfl | ⟨hleft, hright⟩⟩ := h
  · rfl
  · rw [hleft, hright]

/-- A root that carries settings carries equal ones. -/
theorem Carries.congr {root : RootQdisc} {left right : DirectionSettings} (h : Carries root left)
    (hsame : left.same right = true) : Carries root right := by
  simp only [DirectionSettings.same, Bool.and_eq_true, decide_eq_true_eq] at hsame
  obtain ⟨⟨⟨hdelay, hjitter⟩, hloss⟩, hbandwidth⟩ := hsame
  have hfree : Unrestricted left ↔ Unrestricted right := by
    unfold Unrestricted
    rw [hdelay, hjitter, isZero_congr hloss, hbandwidth]
  rcases h with ⟨hplain, hroot⟩ | ⟨hplain, hroot⟩
  · exact Or.inl ⟨hfree.mp hplain, hroot⟩
  · exact Or.inr ⟨mt hfree.mpr hplain, hroot.kind, hroot.handle, hdelay ▸ hroot.delay, hjitter ▸ hroot.jitter,
      lossProbability_congr hloss ▸ hroot.loss, hbandwidth ▸ hroot.bandwidth, hroot.unmixed⟩

/-! ### Every probability is that of a percentage -/

theorem units_hundred : Binary64.units hundred = 100 * Binary64.unitsInOne := by decide +kernel

theorem units_probabilityMax : Binary64.units probabilityMax = 4294967295 * Binary64.unitsInOne := by decide +kernel

/-- The pattern of the percentage nearest to a probability. -/
def percentagePattern (probability : Nat) : Nat := Binary64.roundRatio (100 * probability) 4294967295

theorem percentagePattern_le {probability : Nat} (h : probability < 2 ^ 32) :
    percentagePattern probability ≤ hundred := by
  refine Binary64.roundRatio_le (by decide) ?_
  have hhundred : Binary64.significand hundred * 2 ^ Binary64.scale hundred = 100 * Binary64.unitsInOne := units_hundred
  rw [hhundred]
  calc 100 * probability * Binary64.unitsInOne ≤ 100 * 4294967295 * Binary64.unitsInOne :=
        Nat.mul_le_mul_right _ (by omega)
    _ = 100 * Binary64.unitsInOne * 4294967295 := Nat.mul_right_comm _ _ _

open Binary64 in
/-- Three roundings on the way do not lead to another probability. -/
theorem rint_percentagePattern {probability : Nat} (hpositive : 0 < probability) (h : probability < 2 ^ 32) :
    rint (multiply (divide (percentagePattern probability) hundred) probabilityMax) = probability := by
  have hone : 0 < unitsInOne := by
    unfold unitsInOne
    positivity
  have hless : unitsInOne ≤ probability * unitsInOne := Nat.le_mul_of_pos_left _ hpositive
  have hmore : probability * unitsInOne ≤ 2 ^ 32 * unitsInOne := Nat.mul_le_mul_right _ (Nat.le_of_lt h)
  -- the percentage
  obtain ⟨hover, hunder⟩ := @roundRatio_near (100 * probability) 4294967295 (by decide) (by omega) (by omega)
  change rint (multiply (divide (roundRatio (100 * probability) 4294967295) hundred) probabilityMax) = probability
  generalize roundRatio (100 * probability) 4294967295 = percentage at hover hunder ⊢
  rw [Nat.mul_assoc 100] at hover hunder
  -- the share that it is of one
  have hdivide : divide percentage hundred = roundRatio (units percentage) (100 * unitsInOne) := by
    rw [← units_hundred]
    rfl
  obtain ⟨hover', hunder'⟩ := @roundRatio_near (units percentage) (100 * unitsInOne) (by omega) (by linarith)
    (by linarith)
  rw [hdivide]
  generalize roundRatio (units percentage) (100 * unitsInOne) = share at hover' hunder' ⊢
  replace hover' : 2 ^ 53 * (units share * 100) ≤ (2 ^ 53 + 1) * units percentage := by
    refine Nat.le_of_mul_le_mul_right ?_ hone
    linarith
  replace hunder' : 2 ^ 53 * units percentage ≤ 2 ^ 53 * (units share * 100) + units percentage := by
    refine Nat.le_of_mul_le_mul_right ?_ hone
    linarith
  -- the probability before it is rounded
  have hmultiply : multiply share probabilityMax =
      roundRatio (units share * 4294967295 * unitsInOne) (unitsInOne * unitsInOne) := by
    rw [Nat.mul_assoc, ← units_probabilityMax]
    rfl
  have hlarge : unitsInOne * unitsInOne ≤ 2 ^ 200 * (units share * 4294967295 * unitsInOne) := by
    rw [← Nat.mul_assoc]
    exact Nat.mul_le_mul_right _ (by linarith)
  have hsmall : units share * 4294967295 * unitsInOne ≤ 2 ^ 200 * (unitsInOne * unitsInOne) := by
    rw [← Nat.mul_assoc]
    exact Nat.mul_le_mul_right _ (by linarith)
  obtain ⟨hover'', hunder''⟩ := roundRatio_near (Nat.mul_pos hone hone) hlarge hsmall
  rw [hmultiply]
  generalize roundRatio (units share * 4294967295 * unitsInOne) (unitsInOne * unitsInOne) = scaled at hover'' hunder'' ⊢
  replace hover'' : 2 ^ 53 * units scaled ≤ (2 ^ 53 + 1) * (units share * 4294967295) := by
    refine Nat.le_of_mul_le_mul_right ?_ (Nat.mul_pos hone hone)
    linarith
  replace hunder'' : 2 ^ 53 * (units share * 4294967295) ≤ 2 ^ 53 * units scaled + units share * 4294967295 := by
    refine Nat.le_of_mul_le_mul_right ?_ (Nat.mul_pos hone hone)
    linarith
  refine roundHalfEven_eq hone ?_ ?_
  · change 2 * units scaled < _
    linarith
  · change _ < 2 * units scaled + _
    linarith

theorem exists_lossProbability (probability : UInt32) :
    ∃ percentage, lossProbability percentage = some probability ∧ (probability = 0 → percentage.isZero = true) := by
  by_cases hzero : probability = 0
  · subst hzero
    exact ⟨Double.zero, lossProbability_of_isZero rfl, fun _ => rfl⟩
  have hpositive : 0 < probability.toNat := Nat.pos_of_ne_zero fun h => hzero (UInt32.toNat_inj.mp h)
  have hrint := rint_percentagePattern hpositive probability.toNat_lt
  have hle := percentagePattern_le probability.toNat_lt
  generalize percentagePattern probability.toNat = pattern at hrint hle
  have hbits : (BitVec.ofNat 64 pattern).toNat = pattern :=
    BitVec.toNat_ofNat .. ▸ Nat.mod_eq_of_lt (Nat.lt_of_le_of_lt hle (by decide))
  obtain ⟨hfinite, hsign, hbound⟩ : (Double.mk (BitVec.ofNat 64 pattern)).IsPercentage :=
    Double.isPercentage_of_toNat_le (hbits.symm ▸ hle)
  have hmagnitude : (Double.mk (BitVec.ofNat 64 pattern)).magnitude = pattern := by
    rw [Double.magnitude, hbits]
    exact Nat.mod_eq_of_lt (Nat.lt_of_le_of_lt hle (by decide))
  refine ⟨⟨BitVec.ofNat 64 pattern⟩, ?_, fun h => absurd h hzero⟩
  rw [lossProbability, if_neg (by simp [hfinite, hbound, Double.isNegative, hsign]), hmagnitude]
  dsimp only
  rw [hrint, if_neg (by have := probability.toNat_lt; omega), UInt32.ofNat_toNat]

/-! ### The roots of the tool -/

section Roots

variable {root : RootQdisc} {settings : DirectionSettings} {direction : ShapingDirection}

theorem isOwnedRootQdisc_iff : isOwnedRootQdisc root = true ↔
    root.kind = .noqueue ∧ root.handle = 0 ∨ root.kind = .netem ∧ root.handle = ownedNetemHandle := by
  simp [isOwnedRootQdisc]

variable [DecimalText]

/-- A loss that is above the kernel's resolution can be spelled. -/
theorem lossArguments_isSome {probability : UInt32}
    (hloss : lossProbability settings.packetLossPercent = some probability)
    (hresolved : settings.packetLossPercent.isPositive = true → probability ≠ 0) :
    (lossArguments settings).isSome = true := by
  unfold lossArguments
  split
  · rfl
  · rename_i hnonzero
    rw [Bool.not_eq_true] at hnonzero
    have hlegal : ¬ (settings.packetLossPercent.isFinite = false ∨ settings.packetLossPercent.isNegative = true ∨
        settings.packetLossPercent.exceedsHundred = true) := by
      intro hillegal
      rw [lossProbability, if_pos hillegal] at hloss
      exact nomatch hloss
    simp only [not_or, Bool.not_eq_false, Bool.not_eq_true] at hlegal
    obtain ⟨hfinite, hsign, hbound⟩ := hlegal
    have hnumber := Double.isNaN_eq_false_of_isFinite hfinite
    have hunsigned : settings.packetLossPercent.signBit = false := by
      simpa [Double.isNegative, hnumber, hnonzero] using hsign
    have hformat : formatLossPercentage settings.packetLossPercent =
        some (DecimalText.toChars settings.packetLossPercent) :=
      if_pos (DecimalText.length_toChars _ ⟨hfinite, hunsigned, hbound⟩)
    have hpositive : probability ≠ 0 := hresolved (by simp [Double.isPositive, hunsigned, hnumber, hnonzero])
    simp only [hloss, hformat]
    rw [if_neg hpositive]
    rfl

/-- Supported settings have arguments. -/
theorem makeArguments_isSome (h : supported settings = true)
    (direction : ShapingDirection) (operation : Bytes) : (makeArguments direction operation settings).isSome = true := by
  simp only [supported, Bool.and_eq_true, Option.isNone_iff_eq_none] at h
  obtain ⟨⟨⟨hbandwidth, hdelay⟩, hjitter⟩, hresolved⟩ := h
  cases hloss : lossProbability settings.packetLossPercent with
  | none =>
      rw [hloss] at hresolved
      exact nomatch hresolved
  | some probability =>
      rw [hloss] at hresolved
      have hpositive : settings.packetLossPercent.isPositive = true → probability ≠ 0 := by
        rintro hpositive rfl
        rw [hpositive] at hresolved
        exact nomatch hresolved
      rw [makeArguments, if_neg (by simp [hbandwidth, Option.ne_none_iff_isSome, hdelay, hjitter, hloss])]
      split
      · rfl
      · rw [Option.isSome_map]
        exact lossArguments_isSome hloss hpositive

/-- Whether there is a command does not depend on how it is called. -/
theorem makeArguments_eq_none (direction : ShapingDirection) (operation other : Bytes) (settings : DirectionSettings)
    (h : makeArguments direction operation settings = none) : makeArguments direction other settings = none := by
  unfold makeArguments at h ⊢
  split at h
  · rename_i hunsupported
    exact if_pos hunsupported
  · rename_i hsupported
    rw [if_neg hsupported]
    split at h
    · exact nomatch h
    · rename_i hrestricted
      rw [if_neg hrestricted, Option.map_eq_none_iff]
      exact Option.map_eq_none_iff.mp h

theorem Carries.installable {operation : Bytes} (h : Carries root settings)
    (hcommand : (makeArguments direction operation settings).isSome = true) : Installable direction root := by
  have hadd : makeArguments direction (ascii "add") settings ≠ none := fun hnone =>
    Option.isSome_iff_ne_none.mp hcommand (makeArguments_eq_none direction _ operation settings hnone)
  obtain ⟨arguments, harguments⟩ := Option.ne_none_iff_exists'.mp hadd
  exact ⟨settings, arguments, harguments, h⟩

/-- Settings whose loss is below the kernel's resolution have no command. -/
theorem lossArguments_eq_none (hloss : lossProbability settings.packetLossPercent = some 0)
    (hnonzero : settings.packetLossPercent.isZero = false) : lossArguments settings = none := by
  rw [lossArguments, if_neg (by simp [hnonzero]), hloss]
  split
  · rename_i probability percentage hprobability _
    rw [if_pos (Option.some.inj hprobability).symm]
  · rfl

theorem not_installable (hkind : root.kind = .netem) (hforeign : Foreign root) : ¬ Installable direction root := by
  rintro ⟨settings, arguments, harguments, ⟨-, hnoqueue, -⟩ | ⟨hrestricted, hshaped⟩⟩
  · exact nomatch hkind.symm.trans hnoqueue
  rcases hforeign with hmixed | hdelay | hjitter | ⟨hdelay, hjitter, hloss⟩
  · exact nomatch hmixed.symm.trans hshaped.unmixed
  · have hmillion := hshaped.delay
    omega
  · have hmillion := hshaped.jitter
    omega
  · have hdelay' := hshaped.delay
    have hjitter' := hshaped.jitter
    have hloss' := hshaped.loss
    rw [hdelay] at hdelay'
    rw [hjitter] at hjitter'
    rw [hloss] at hloss'
    have hnone : settings.delay = 0 := eq_zero_of_toInt_milliseconds hdelay'
    have hsteady : settings.jitter = 0 := eq_zero_of_toInt_milliseconds hjitter'
    have hnonzero : settings.packetLossPercent.isZero = false := by
      rw [← Bool.not_eq_true]
      exact fun hzero => hrestricted ⟨hnone, hsteady, hzero, hshaped.bandwidth⟩
    rw [makeArguments, if_neg (by simp_all), if_neg (mt unrestricted_iff.mp hrestricted),
      lossArguments_eq_none hloss' hnonzero] at harguments
    cases harguments

/-- Netem under the tool's handle that is not foreign is asked for by a command. -/
theorem installable_of_not_foreign (hkind : root.kind = .netem) (hhandle : root.handle = ownedNetemHandle)
    (h : ¬ Foreign root) : Installable direction root := by
  simp only [Foreign, not_or, not_not, Bool.not_eq_true] at h
  obtain ⟨hunmixed, hdelay, hjitter, heffect⟩ := h
  obtain ⟨percentage, hloss, hzero⟩ := exists_lossProbability root.lossProbability
  have hdelay' := toInt_milliseconds hdelay
  have hjitter' := toInt_milliseconds hjitter
  generalize Int64.ofNat (root.delayNanoseconds.toNat / 1000000) = delay at hdelay'
  generalize Int64.ofNat (root.jitterNanoseconds.toNat / 1000000) = jitter at hjitter'
  have hsupported : supported ⟨delay, jitter, percentage, none⟩ = true := by
    rw [supported, nanoseconds_eq_some_iff.mpr hdelay', nanoseconds_eq_some_iff.mpr hjitter', hloss]
    by_cases hnone : root.lossProbability = 0
    · simp [Double.isPositive, hzero hnone]
    · simp [hnone]
  have hrestricted : ¬ Unrestricted ⟨delay, jitter, percentage, none⟩ := by
    rintro ⟨hnone, hsteady, hlossless, -⟩
    dsimp only at hnone hsteady hlossless
    subst hnone hsteady
    rw [lossProbability_of_isZero hlossless, Option.some.injEq] at hloss
    exact heffect ⟨UInt64.toNat_inj.mp (Int.ofNat.inj hdelay'), UInt64.toNat_inj.mp (Int.ofNat.inj hjitter'), hloss.symm⟩
  have hcarries : Carries root ⟨delay, jitter, percentage, none⟩ :=
    Or.inr ⟨hrestricted, hkind, hhandle, hdelay', hjitter', hloss, rfl, hunmixed⟩
  exact hcarries.installable (makeArguments_isSome hsupported direction (ascii "add"))

theorem installable_noqueue (hkind : root.kind = .noqueue) (hhandle : root.handle = 0) : Installable direction root := by
  have hsupported : supported {} = true := by decide +kernel
  have hcarries : Carries root {} := Or.inl ⟨⟨rfl, rfl, rfl, rfl⟩, hkind, hhandle⟩
  exact hcarries.installable (makeArguments_isSome hsupported direction (ascii "add"))

end Roots

end NetLagLab.NetworkEnvironment
