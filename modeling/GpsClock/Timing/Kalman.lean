import GpsClock.Timing.Q16
import GpsClock.Lib.Machine

/-! # The oscillator's period estimator

`kalman.c`. A measurement moves the estimate by a rounded share of the innovation, never
past it: the estimate stays among the measurements it was made of. The covariance, kept as
its ratio to the measurement's, is the gain after an acceptance, and the gains of a run of
acceptances fall (`GpsClock.Timing.KalmanFilter.bounded`).
-/

namespace GpsClock.Timing

/-- `KALMAN_Q30_ONE`. -/
abbrev kalmanQ30One : Nat := 1073741824

/-- `VARIANCE_RATIO_MAX`. -/
abbrev varianceRatioMax : Nat := 2 * kalmanQ30One

/-- `KALMAN_GATE_SIGMA`. -/
abbrev kalmanGateSigma : Nat := 8

/-- `KALMAN_REJECT_LIMIT`. -/
abbrev kalmanRejectLimit : Nat := 4

inductive KalmanResult
  | accepted
  | acquired
  | rejected
  | reacquiring
  deriving DecidableEq, Repr

structure KalmanStats where
  accepted : BitVec 32 := 0
  rejected : BitVec 32 := 0
  reacquisitions : BitVec 32 := 0
  deriving DecidableEq, Repr

structure KalmanFilter where
  offsetQ16 : Int := 0
  varianceRatioQ30 : Nat := kalmanQ30One
  processRatioQ30 : Nat := 0
  measurementVarianceQ16 : Nat
  gainQ30 : Nat := 0
  nominalPeriod : BitVec 32
  consecutiveRejects : Nat := 0
  initialized : Bool := false
  stats : KalmanStats := {}
  deriving DecidableEq, Repr

/-- `gain_from_ratio`: the numerator and the divisor are below 2^64 and 2^32. -/
def gainFromRatio (pMinusQ30 : Nat) : Nat :=
  Rounding.quotient (pMinusQ30 * 1073741824) (pMinusQ30 + kalmanQ30One)

theorem ratio_pos (pMinusQ30 : Nat) : 0 < pMinusQ30 + kalmanQ30One :=
  Nat.add_pos_right _ (by decide)

theorem gainFromRatio_pos {pMinusQ30 : Nat} (some : 0 < pMinusQ30) :
    0 < gainFromRatio pMinusQ30 := by
  apply (Rounding.le_quotient (ratio_pos _)).mpr
  dsimp only [kalmanQ30One]
  omega

theorem gainFromRatio_le (pMinusQ30 : Nat) : gainFromRatio pMinusQ30 ≤ kalmanQ30One := by
  apply Nat.le_of_lt_succ
  rw [← Nat.not_le]
  intro above
  have reached := (Rounding.le_quotient (ratio_pos _)).mp above
  dsimp only [kalmanQ30One] at reached
  omega

/-- A larger covariance gives a larger gain, rounding included. -/
theorem gainFromRatio_mono {smaller larger : Nat} (le : smaller ≤ larger) :
    gainFromRatio smaller ≤ gainFromRatio larger := by
  have most := gainFromRatio_le smaller
  have reached := (Rounding.le_quotient (ratio_pos _)).mp (le_refl (gainFromRatio smaller))
  apply (Rounding.le_quotient (ratio_pos _)).mpr
  generalize gainFromRatio smaller = gain at *
  obtain ⟨more, rfl⟩ := Nat.exists_eq_add_of_le le
  have share : gain * more ≤ kalmanQ30One * more := Nat.mul_le_mul_right more most
  dsimp only [kalmanQ30One] at *
  have spread : 2 * gain * (smaller + more + 1073741824) =
      2 * gain * (smaller + 1073741824) + 2 * (gain * more) := by ring
  rw [spread]
  linarith

namespace KalmanFilter

/-- `within_gate`: squared, in Q32. -/
def withinGate (filter : KalmanFilter) (innovationQ16 : Int) (pMinusQ30 : Nat) : Prop :=
  innovationQ16.natAbs * innovationQ16.natAbs ≤
    kalmanGateSigma * kalmanGateSigma *
      (filter.measurementVarianceQ16 * ((kalmanQ30One + pMinusQ30) / 16384))

instance (filter : KalmanFilter) (innovationQ16 : Int) (pMinusQ30 : Nat) :
    Decidable (filter.withinGate innovationQ16 pMinusQ30) :=
  inferInstanceAs (Decidable (_ ≤ _))

/-- `acquire`. -/
def acquire (filter : KalmanFilter) (measuredOffsetQ16 : Int) : KalmanFilter :=
  { filter with
    offsetQ16 := measuredOffsetQ16
    varianceRatioQ30 := kalmanQ30One
    gainQ30 := kalmanQ30One
    consecutiveRejects := 0
    initialized := true }

/-- `reject`: the count is a `uint8_t`. -/
def reject (filter : KalmanFilter) : KalmanResult × KalmanFilter :=
  let rejects := (filter.consecutiveRejects + 1) % 256
  let stats := { filter.stats with rejected := filter.stats.rejected + 1 }
  if kalmanRejectLimit ≤ rejects then
    (.reacquiring,
      { filter with
        consecutiveRejects := rejects
        initialized := false
        stats := { stats with reacquisitions := stats.reacquisitions + 1 } })
  else (.rejected, { filter with consecutiveRejects := rejects, stats := stats })

/-- `kalman_reset`. -/
def reset (filter : KalmanFilter) : KalmanFilter :=
  { filter with
    offsetQ16 := 0
    varianceRatioQ30 := kalmanQ30One
    gainQ30 := 0
    consecutiveRejects := 0
    initialized := false }

/-- `kalman_init`. -/
def init (nominalPeriod : BitVec 32) (processVarianceQ16 measurementVarianceQ16 : Nat) :
    Option KalmanFilter :=
  if nominalPeriod = 0 ∨ measurementVarianceQ16 = 0 ∨
      measurementVarianceQ16 < processVarianceQ16 then none
  else
    some (reset
      { nominalPeriod := nominalPeriod
        measurementVarianceQ16 := measurementVarianceQ16
        processRatioQ30 :=
          Rounding.quotient (processVarianceQ16 * 1073741824) measurementVarianceQ16 })

/-- `measured_offset`. -/
def measuredOffset (filter : KalmanFilter) (measuredPeriod : BitVec 32) : Int :=
  (measuredPeriod - filter.nominalPeriod).toInt

/-- The measurement is one that Q16 holds. -/
def InRange (filter : KalmanFilter) (measuredPeriod : BitVec 32) : Prop :=
  ¬(filter.measuredOffset measuredPeriod > q16TickLimit ∨
    filter.measuredOffset measuredPeriod < -q16TickLimit)

instance (filter : KalmanFilter) (measuredPeriod : BitVec 32) :
    Decidable (filter.InRange measuredPeriod) :=
  inferInstanceAs (Decidable (¬_))

/-- `measured_offset_q16`. -/
def measuredOffsetQ16 (filter : KalmanFilter) (measuredPeriod : BitVec 32) : Int :=
  q16FromTicks (filter.measuredOffset measuredPeriod)

/-- `p_minus_q30`: a 32-bit sum, limited. -/
def pMinusQ30 (filter : KalmanFilter) : Nat :=
  let sum := (filter.varianceRatioQ30 + filter.processRatioQ30) % 4294967296
  if varianceRatioMax < sum then varianceRatioMax else sum

/-- `innovation_q16`. -/
def innovationQ16 (filter : KalmanFilter) (measuredPeriod : BitVec 32) : Int :=
  int32 (filter.measuredOffsetQ16 measuredPeriod - filter.offsetQ16)

/-- An accepted measurement. -/
def accept (filter : KalmanFilter) (innovationQ16 : Int) : KalmanFilter :=
  { filter with
    gainQ30 := gainFromRatio filter.pMinusQ30
    offsetQ16 := int32 (filter.offsetQ16 +
      int32 (qRoundShift (gainFromRatio filter.pMinusQ30 * innovationQ16) 30))
    varianceRatioQ30 := gainFromRatio filter.pMinusQ30
    consecutiveRejects := 0
    stats := { filter.stats with accepted := filter.stats.accepted + 1 } }

/-- `kalman_update`. -/
def update (filter : KalmanFilter) (measuredPeriod : BitVec 32) : KalmanResult × KalmanFilter :=
  if filter.InRange measuredPeriod then
    if filter.initialized then
      if filter.withinGate (filter.innovationQ16 measuredPeriod) filter.pMinusQ30 then
        (.accepted, filter.accept (filter.innovationQ16 measuredPeriod))
      else { filter with varianceRatioQ30 := filter.pMinusQ30 }.reject
    else
      (.acquired,
        { filter.acquire (filter.measuredOffsetQ16 measuredPeriod) with
          stats := { filter.stats with accepted := filter.stats.accepted + 1 } })
  else filter.reject

/-- What every run keeps of the filter: the covariance ratios in range, and the estimate one
that Q16 holds. -/
structure Bounded (filter : KalmanFilter) : Prop where
  process : filter.processRatioQ30 ≤ kalmanQ30One
  measurement : filter.measurementVarianceQ16 < 4294967296
  varianceLeast : 0 < filter.varianceRatioQ30
  varianceMost : filter.varianceRatioQ30 ≤ varianceRatioMax
  offset : |filter.offsetQ16| ≤ q16Limit

variable {filter : KalmanFilter} {measuredPeriod : BitVec 32}

theorem measuredOffsetQ16_within (inRange : filter.InRange measuredPeriod) :
    |filter.measuredOffsetQ16 measuredPeriod| ≤ q16Limit := by
  rw [InRange] at inRange
  push Not at inRange
  rw [measuredOffsetQ16, q16FromTicks_eq (abs_le.mpr inRange.symm)]
  apply abs_le.mpr
  dsimp only [q16TickLimit, q16One, q16Limit] at *
  omega

theorem pMinusQ30_le (filter : KalmanFilter) : filter.pMinusQ30 ≤ varianceRatioMax := by
  rw [pMinusQ30]
  split
  · exact le_rfl
  · omega

namespace Bounded

/-- The predicted ratio: the sum itself, limited. -/
theorem pMinus_eq (bounded : filter.Bounded) :
    filter.pMinusQ30 = min varianceRatioMax (filter.varianceRatioQ30 + filter.processRatioQ30) := by
  have process := bounded.process
  have most := bounded.varianceMost
  dsimp only [varianceRatioMax, kalmanQ30One] at *
  rw [pMinusQ30]
  dsimp only [varianceRatioMax, kalmanQ30One]
  split <;> omega

theorem pMinus_pos (bounded : filter.Bounded) : 0 < filter.pMinusQ30 := by
  have least := bounded.varianceLeast
  rw [bounded.pMinus_eq]
  dsimp only [varianceRatioMax, kalmanQ30One]
  omega

theorem innovation_eq (bounded : filter.Bounded) (inRange : filter.InRange measuredPeriod) :
    filter.innovationQ16 measuredPeriod =
      filter.measuredOffsetQ16 measuredPeriod - filter.offsetQ16 := by
  have measured := abs_le.mp (measuredOffsetQ16_within inRange)
  have held := abs_le.mp bounded.offset
  dsimp only [q16Limit] at measured held
  exact int32_eq ⟨by omega, by omega⟩

/-- The two squares compared fit 64 bits. -/
theorem gate_fits (bounded : filter.Bounded) (inRange : filter.InRange measuredPeriod) :
    (filter.innovationQ16 measuredPeriod).natAbs *
        (filter.innovationQ16 measuredPeriod).natAbs < 18446744073709551616 ∧
      kalmanGateSigma * kalmanGateSigma * (filter.measurementVarianceQ16 *
        ((kalmanQ30One + filter.pMinusQ30) / 16384)) < 18446744073709551616 := by
  have measured := abs_le.mp (measuredOffsetQ16_within inRange)
  have held := abs_le.mp bounded.offset
  have variance := bounded.measurement
  have predicted := filter.pMinusQ30_le
  dsimp only [q16Limit, varianceRatioMax, kalmanQ30One, kalmanGateSigma] at *
  have size : (filter.innovationQ16 measuredPeriod).natAbs ≤ 2147483648 := by
    rw [bounded.innovation_eq inRange]
    omega
  have spread : (1073741824 + filter.pMinusQ30) / 16384 ≤ 196608 := by omega
  constructor
  · exact lt_of_le_of_lt (Nat.mul_le_mul size size) (by decide)
  · have product := Nat.mul_le_mul variance.le spread
    omega

/-- An acceptance moves the estimate towards the measurement, and not past it. -/
theorem accept_between (bounded : filter.Bounded) (inRange : filter.InRange measuredPeriod) :
    let moved := (filter.accept (filter.innovationQ16 measuredPeriod)).offsetQ16
    (filter.offsetQ16 ≤ moved ∧ moved ≤ filter.measuredOffsetQ16 measuredPeriod) ∨
      (filter.measuredOffsetQ16 measuredPeriod ≤ moved ∧ moved ≤ filter.offsetQ16) := by
  have measured := abs_le.mp (measuredOffsetQ16_within inRange)
  have held := abs_le.mp bounded.offset
  have least : (0 : Int) ≤ gainFromRatio filter.pMinusQ30 := Int.natCast_nonneg _
  have most : (gainFromRatio filter.pMinusQ30 : Int) ≤ 2 ^ 30 := by
    exact_mod_cast gainFromRatio_le filter.pMinusQ30
  dsimp only [accept]
  rw [bounded.innovation_eq inRange, qRoundShift]
  generalize filter.measuredOffsetQ16 measuredPeriod = measurement at *
  obtain ⟨upward, downward⟩ := Rounding.nearest_weight (measurement - filter.offsetQ16)
    (by decide : 0 < 30) least most
  dsimp only [q16Limit] at measured held
  rcases le_total 0 (measurement - filter.offsetQ16) with above | below
  · obtain ⟨low, high⟩ := upward above
    have stepFits := int32_eq (⟨by omega, by omega⟩ : Fits32 (Rounding.nearest
      (gainFromRatio filter.pMinusQ30 * (measurement - filter.offsetQ16)) 30))
    left
    rw [stepFits, int32_eq ⟨by omega, by omega⟩]
    omega
  · obtain ⟨low, high⟩ := downward below
    have stepFits := int32_eq (⟨by omega, by omega⟩ : Fits32 (Rounding.nearest
      (gainFromRatio filter.pMinusQ30 * (measurement - filter.offsetQ16)) 30))
    right
    rw [stepFits, int32_eq ⟨by omega, by omega⟩]
    omega

end Bounded

/-- An update acquires, accepts, or rejects. -/
theorem update_cases (filter : KalmanFilter) (measuredPeriod : BitVec 32) :
    (filter.InRange measuredPeriod ∧ filter.initialized = false ∧
        filter.update measuredPeriod =
          (.acquired,
            { filter.acquire (filter.measuredOffsetQ16 measuredPeriod) with
              stats := { filter.stats with accepted := filter.stats.accepted + 1 } })) ∨
      (filter.InRange measuredPeriod ∧ filter.initialized = true ∧
        filter.update measuredPeriod =
          (.accepted, filter.accept (filter.innovationQ16 measuredPeriod))) ∨
      (¬(filter.InRange measuredPeriod ∧ filter.initialized = false) ∧
        ∃ variance, (variance = filter.varianceRatioQ30 ∨ variance = filter.pMinusQ30) ∧
          filter.update measuredPeriod = { filter with varianceRatioQ30 := variance }.reject) := by
  rw [update]
  by_cases inRange : filter.InRange measuredPeriod
  · rw [if_pos inRange]
    cases initialized : filter.initialized with
    | false => exact .inl ⟨inRange, rfl, rfl⟩
    | true =>
        right
        rw [if_pos rfl]
        by_cases within : filter.withinGate (filter.innovationQ16 measuredPeriod) filter.pMinusQ30
        · rw [if_pos within]
          exact .inl ⟨inRange, rfl, rfl⟩
        · rw [if_neg within]
          refine .inr ⟨fun fresh => ?_, _, .inr rfl, rfl⟩
          cases fresh.2
  · rw [if_neg inRange]
    exact .inr (.inr ⟨fun fresh => inRange fresh.1, _, .inl rfl, rfl⟩)

/-- A rejection counts, and at the limit forgets that the filter was initialised; the
estimate stays. -/
theorem reject_spec (filter : KalmanFilter) :
    filter.reject.2 =
        { filter with
          consecutiveRejects := (filter.consecutiveRejects + 1) % 256
          initialized := filter.initialized &&
            !decide (kalmanRejectLimit ≤ (filter.consecutiveRejects + 1) % 256)
          stats := filter.reject.2.stats } ∧
      (filter.reject.1 = .rejected ∨ filter.reject.1 = .reacquiring) := by
  rw [reject]
  dsimp only
  by_cases limit : kalmanRejectLimit ≤ (filter.consecutiveRejects + 1) % 256
  · rw [if_pos limit]
    simp [limit]
  · rw [if_neg limit]
    simp [limit]

theorem Bounded.acquire (bounded : filter.Bounded) (inRange : filter.InRange measuredPeriod)
    (stats : KalmanStats) :
    Bounded { filter.acquire (filter.measuredOffsetQ16 measuredPeriod) with stats := stats } where
  process := bounded.process
  measurement := bounded.measurement
  varianceLeast := (by decide : 0 < kalmanQ30One)
  varianceMost := (by decide : kalmanQ30One ≤ varianceRatioMax)
  offset := measuredOffsetQ16_within inRange

theorem Bounded.accept (bounded : filter.Bounded) (inRange : filter.InRange measuredPeriod) :
    (filter.accept (filter.innovationQ16 measuredPeriod)).Bounded where
  process := bounded.process
  measurement := bounded.measurement
  varianceLeast := gainFromRatio_pos bounded.pMinus_pos
  varianceMost := (gainFromRatio_le _).trans (by decide)
  offset := by
    have measured := abs_le.mp (measuredOffsetQ16_within inRange)
    have held := abs_le.mp bounded.offset
    apply abs_le.mpr
    rcases bounded.accept_between inRange with between | between <;> omega

theorem Bounded.reject (bounded : filter.Bounded) {variance : Nat}
    (either : variance = filter.varianceRatioQ30 ∨ variance = filter.pMinusQ30) :
    Bounded { filter with varianceRatioQ30 := variance }.reject.2 := by
  rw [(reject_spec _).1]
  rcases either with rfl | rfl
  · exact { bounded with }
  · exact { bounded with
      varianceLeast := bounded.pMinus_pos
      varianceMost := filter.pMinusQ30_le }

end KalmanFilter

/-! ## Its runs -/

/-- A filter, with what its updates have returned (the latest first), the measurements
taken since it last acquired, and the gains since then while none is rejected. -/
structure RecordedFilter where
  filter : KalmanFilter
  results : List KalmanResult := []
  taken : List Int := []
  gains : List Nat := []
  deriving DecidableEq, Repr

/-- The measurement was turned down. -/
def KalmanResult.turnedDown : KalmanResult → Bool
  | .rejected | .reacquiring => true
  | .accepted | .acquired => false

namespace RecordedFilter

/-- One update. -/
def after (recorded : RecordedFilter) (measuredPeriod : BitVec 32) : RecordedFilter :=
  let (result, filter) := recorded.filter.update measuredPeriod
  let measurement := recorded.filter.measuredOffsetQ16 measuredPeriod
  { filter := filter
    results := result :: recorded.results
    taken :=
      match result with
      | .acquired => [measurement]
      | .accepted => measurement :: recorded.taken
      | _ => recorded.taken
    gains :=
      match result with
      | .acquired => [filter.gainQ30]
      | .accepted => if recorded.gains = [] then [] else filter.gainQ30 :: recorded.gains
      | _ => [] }

/-- A filter as `kalman_init` leaves it, and its measurements. -/
def machine : Machine RecordedFilter (BitVec 32) where
  start := fun recorded => ∃ (nominalPeriod process measurement : BitVec 32),
    KalmanFilter.init nominalPeriod process.toNat measurement.toNat = some recorded.filter ∧
      recorded.results = [] ∧ recorded.taken = [] ∧ recorded.gains = []
  step := after

/-- How many updates in a row, the latest among them, were turned down. -/
def rejectsInARow (recorded : RecordedFilter) : Nat :=
  (recorded.results.takeWhile KalmanResult.turnedDown).length

/-- No measurement is held to the filter: none was ever taken, or the limit of rejections
in a row has passed. -/
def Starting (recorded : RecordedFilter) : Prop :=
  (∀ result ∈ recorded.results, result.turnedDown = true) ∨
    kalmanRejectLimit ≤ recorded.rejectsInARow

instance (recorded : RecordedFilter) : Decidable recorded.Starting :=
  inferInstanceAs (Decidable (_ ∨ _))

/-- The estimate is among the measurements taken. -/
def Among (recorded : RecordedFilter) : Prop :=
  ∃ least ∈ recorded.taken, ∃ most ∈ recorded.taken,
    least ≤ recorded.filter.offsetQ16 ∧ recorded.filter.offsetQ16 ≤ most

/-- What every run keeps. -/
structure Kept (recorded : RecordedFilter) : Prop where
  bounded : recorded.filter.Bounded
  among : recorded.filter.initialized = true → recorded.Among
  starting : recorded.filter.initialized = false ↔ recorded.Starting
  counted : recorded.filter.initialized = true →
    recorded.filter.consecutiveRejects = recorded.rejectsInARow
  gains : recorded.gains.Pairwise (· ≤ ·)
  last : ∀ gain ∈ recorded.gains.head?,
    recorded.filter.varianceRatioQ30 = gain ∧ gainFromRatio recorded.filter.pMinusQ30 ≤ gain

variable {recorded : RecordedFilter} {measuredPeriod : BitVec 32}

theorem not_starting_of_taken {results : List KalmanResult} {result : KalmanResult}
    (kept : result.turnedDown = false) (same : recorded.results = result :: results) :
    ¬recorded.Starting := by
  rw [Starting, rejectsInARow, same, List.takeWhile_cons, kept]
  rintro (every | many)
  · rw [every result (.head _)] at kept
    cases kept
  · exact Nat.not_succ_le_zero _ many

theorem rejectsInARow_of_taken {results : List KalmanResult} {result : KalmanResult}
    (kept : result.turnedDown = false) (same : recorded.results = result :: results) :
    recorded.rejectsInARow = 0 := by
  rw [rejectsInARow, same, List.takeWhile_cons, kept]
  rfl

theorem after_acquired (kept : recorded.Kept) (inRange : recorded.filter.InRange measuredPeriod)
    (acquired : recorded.filter.update measuredPeriod =
      (.acquired,
        { recorded.filter.acquire (recorded.filter.measuredOffsetQ16 measuredPeriod) with
          stats := { recorded.filter.stats with
            accepted := recorded.filter.stats.accepted + 1 } })) :
    (recorded.after measuredPeriod).Kept := by
  have taken : (recorded.after measuredPeriod).results = .acquired :: recorded.results := by
    rw [after, acquired]
  have fresh := not_starting_of_taken (by rfl) taken
  have count := rejectsInARow_of_taken (by rfl) taken
  rw [after, acquired] at fresh count ⊢
  exact
    { bounded := kept.bounded.acquire inRange _
      among := fun _ => ⟨_, .head _, _, .head _, le_rfl, le_rfl⟩
      starting := ⟨fun wrong => absurd wrong.symm Bool.false_ne_true,
        fun starting => absurd starting fresh⟩
      counted := fun _ => count.symm
      gains := List.pairwise_singleton _ _
      last := by
        rintro gain ⟨⟩
        exact ⟨rfl, gainFromRatio_le _⟩ }

theorem after_accepted (kept : recorded.Kept) (inRange : recorded.filter.InRange measuredPeriod)
    (initialized : recorded.filter.initialized = true)
    (accepted : recorded.filter.update measuredPeriod =
      (.accepted, recorded.filter.accept (recorded.filter.innovationQ16 measuredPeriod))) :
    (recorded.after measuredPeriod).Kept := by
  have taken : (recorded.after measuredPeriod).results = .accepted :: recorded.results := by
    rw [after, accepted]
  have fresh := not_starting_of_taken (by rfl) taken
  have count := rejectsInARow_of_taken (by rfl) taken
  have bounded := kept.bounded.accept inRange
  rw [after, accepted] at fresh count ⊢
  refine
    { bounded := bounded
      among := fun _ => ?among
      starting := ⟨fun wrong => absurd (initialized.symm.trans wrong) (by decide),
        fun starting => absurd starting fresh⟩
      counted := fun _ => count.symm
      gains := ?gains
      last := ?last }
  case among =>
    obtain ⟨least, leastTaken, most, mostTaken, low, high⟩ := kept.among initialized
    rcases kept.bounded.accept_between inRange with ⟨above, below⟩ | ⟨above, below⟩
    · exact ⟨least, .tail _ leastTaken, _, .head _, low.trans above, below⟩
    · exact ⟨_, .head _, most, .tail _ mostTaken, above, below.trans high⟩
  case gains =>
    dsimp only
    cases gains : recorded.gains with
    | nil => exact .nil
    | cons gain earlier =>
        have sorted := kept.gains
        obtain ⟨-, falls⟩ := kept.last gain (by rw [gains]; rfl)
        rw [gains] at sorted
        refine List.pairwise_cons.mpr ⟨fun other member => ?_, sorted⟩
        rcases List.mem_cons.mp member with rfl | before
        · exact falls
        · exact falls.trans ((List.pairwise_cons.mp sorted).1 other before)
  case last =>
    dsimp only
    cases gains : recorded.gains with
    | nil =>
        rintro gain ⟨⟩
    | cons gain earlier =>
        obtain ⟨ratio, falls⟩ := kept.last gain (by rw [gains]; rfl)
        rintro latest ⟨⟩
        refine ⟨rfl, gainFromRatio_mono ?_⟩
        -- The covariance after the acceptance is the gain, which is no more than the one before.
        rw [bounded.pMinus_eq, kept.bounded.pMinus_eq, ratio]
        exact min_le_min_left _ (Nat.add_le_add_right falls _)

theorem after_rejected (kept : recorded.Kept) {variance : Nat}
    (either : variance = recorded.filter.varianceRatioQ30 ∨
      variance = recorded.filter.pMinusQ30)
    (rejected : recorded.filter.update measuredPeriod =
      { recorded.filter with varianceRatioQ30 := variance }.reject) :
    (recorded.after measuredPeriod).Kept := by
  obtain ⟨spec, turned⟩ := KalmanFilter.reject_spec
    { recorded.filter with varianceRatioQ30 := variance }
  have bounded := kept.bounded.reject either
  generalize ({ recorded.filter with varianceRatioQ30 := variance }.reject) = outcome at *
  obtain ⟨result, filter⟩ := outcome
  dsimp only at spec turned bounded
  have down : result.turnedDown = true := by
    rcases turned with rfl | rfl <;> rfl
  have after : recorded.after measuredPeriod =
      { recorded with filter := filter, results := result :: recorded.results, gains := [] } := by
    rw [RecordedFilter.after, rejected]
    rcases turned with rfl | rfl <;> rfl
  have longer : (recorded.after measuredPeriod).rejectsInARow = recorded.rejectsInARow + 1 := by
    rw [after, rejectsInARow, List.takeWhile_cons, down]
    rfl
  have starts : (recorded.after measuredPeriod).Starting ↔
      recorded.Starting ∨ kalmanRejectLimit ≤ recorded.rejectsInARow + 1 := by
    rw [Starting, longer, after, Starting]
    constructor
    · rintro (every | many)
      · exact .inl (.inl fun earlier member => every earlier (.tail _ member))
      · exact .inr many
    · rintro ((every | many) | many)
      · refine .inl fun earlier member => ?_
        rcases List.mem_cons.mp member with rfl | before
        · exact down
        · exact every earlier before
      · exact .inr (many.trans (Nat.le_succ _))
      · exact .inr many
  -- An initialised filter has counted every rejection, so the count has not wrapped.
  have few : recorded.filter.initialized = true →
      recorded.filter.consecutiveRejects = recorded.rejectsInARow ∧
        recorded.rejectsInARow < kalmanRejectLimit ∧ ¬recorded.Starting := by
    intro initialized
    have fresh : ¬recorded.Starting := by
      intro starting
      rw [kept.starting.mpr starting] at initialized
      cases initialized
    exact ⟨kept.counted initialized, Nat.lt_of_not_le fun many => fresh (.inr many), fresh⟩
  have remains : filter.initialized = (recorded.filter.initialized &&
      !decide (kalmanRejectLimit ≤ (recorded.filter.consecutiveRejects + 1) % 256)) := by
    rw [spec]
  have count : filter.consecutiveRejects = (recorded.filter.consecutiveRejects + 1) % 256 := by
    rw [spec]
  rw [after] at starts longer ⊢
  refine
    { bounded := bounded
      among := fun initialized => ?among
      starting := ?starting
      counted := fun initialized => ?counted
      gains := .nil
      last := ?last }
  case among =>
    rw [remains, Bool.and_eq_true] at initialized
    have offset : filter.offsetQ16 = recorded.filter.offsetQ16 := by rw [spec]
    obtain ⟨least, leastTaken, most, mostTaken, low, high⟩ := kept.among initialized.1
    refine ⟨least, leastTaken, most, mostTaken, ?_⟩
    dsimp only
    rw [offset]
    exact ⟨low, high⟩
  case starting =>
    rw [starts, remains]
    cases initialized : recorded.filter.initialized with
    | false =>
        exact ⟨fun _ => .inl (kept.starting.mp initialized), fun _ => rfl⟩
    | true =>
        obtain ⟨counted, below, fresh⟩ := few initialized
        dsimp only [kalmanRejectLimit] at below ⊢
        rw [counted, Nat.mod_eq_of_lt (by omega), Bool.true_and, Bool.not_eq_false',
          decide_eq_true_eq]
        exact ⟨.inr, fun starting => starting.resolve_left fresh⟩
  case counted =>
    rw [remains, Bool.and_eq_true] at initialized
    obtain ⟨counted, below, -⟩ := few initialized.1
    dsimp only [kalmanRejectLimit] at below
    rw [longer]
    dsimp only
    rw [count, counted, Nat.mod_eq_of_lt (by omega)]
  case last =>
    rintro gain ⟨⟩

theorem kept_every_run : machine.Invariant (fun _ _ => True) Kept where
  start := by
    rintro ⟨filter, results, taken, gains⟩ ⟨nominal, process, measurement, made, none⟩
    obtain ⟨rfl, rfl, rfl⟩ := none
    rw [KalmanFilter.init] at made
    split at made
    · cases made
    · rename_i valid
      push Not at valid
      obtain ⟨-, some, least⟩ := valid
      cases made
      refine
        { bounded := ?bounded
          among := fun wrong => absurd wrong Bool.false_ne_true
          starting := ⟨fun _ => .inl fun _ member => absurd member List.not_mem_nil, fun _ => rfl⟩
          counted := fun wrong => absurd wrong Bool.false_ne_true
          gains := .nil
          last := ?last }
      case bounded =>
        refine ⟨?_, measurement.isLt, (by decide : 0 < kalmanQ30One),
          (by decide : kalmanQ30One ≤ varianceRatioMax), (by decide : |(0 : Int)| ≤ q16Limit)⟩
        apply Nat.le_of_lt_succ
        rw [← Nat.not_le]
        intro above
        have reached := (Rounding.le_quotient (Nat.pos_of_ne_zero some)).mp above
        dsimp only [kalmanQ30One] at reached
        omega
      case last =>
        rintro gain ⟨⟩
  step := by
    intro recorded measuredPeriod kept _
    rcases recorded.filter.update_cases measuredPeriod with
      ⟨inRange, -, acquired⟩ | ⟨inRange, initialized, accepted⟩ | ⟨-, _, either, rejected⟩
    · exact after_acquired kept inRange acquired
    · exact after_accepted kept inRange initialized accepted
    · exact after_rejected kept either rejected

/-- In every run: the predicted ratio is at most 2; the gains of the acceptances since an
acquisition fall; a measurement taken leaves the estimate among those taken since the filter
acquired, with the gain and the ratio above 0 and at most 1; one turned down leaves the
estimate; and one that Q16 holds is taken as it is exactly when none was taken before, or
the limit of rejections in a row has been reached. -/
theorem bounded_by_data (reached : machine.Reachable (fun _ _ => True) recorded) :
    recorded.filter.pMinusQ30 ≤ 2147483648 ∧ recorded.gains.Pairwise (· ≤ ·) ∧
    ∀ measuredPeriod : BitVec 32,
      let result := (recorded.filter.update measuredPeriod).1
      let next := (recorded.filter.update measuredPeriod).2
      (result.turnedDown = false →
        (recorded.after measuredPeriod).Among ∧
        (0 < next.gainQ30 ∧ next.gainQ30 ≤ 1073741824) ∧
        (0 < next.varianceRatioQ30 ∧ next.varianceRatioQ30 ≤ 1073741824)) ∧
      (result.turnedDown = true → next.offsetQ16 = recorded.filter.offsetQ16) ∧
      (recorded.filter.InRange measuredPeriod → (result = .acquired ↔ recorded.Starting)) ∧
      (result = .acquired →
        next.offsetQ16 = recorded.filter.measuredOffset measuredPeriod * 65536) := by
  have kept := kept_every_run.reachable reached
  refine ⟨recorded.filter.pMinusQ30_le, kept.gains, fun measuredPeriod => ?_⟩
  have later : (recorded.after measuredPeriod).Kept :=
    kept_every_run.step recorded measuredPeriod kept trivial
  have one : 0 < kalmanQ30One ∧ kalmanQ30One ≤ 1073741824 := by decide
  dsimp only
  rcases recorded.filter.update_cases measuredPeriod with
    ⟨inRange, fresh, acquired⟩ | ⟨inRange, initialized, accepted⟩ |
      ⟨other, variance, either, rejected⟩
  · have among := later.among (by rw [after, acquired]; rfl)
    rw [acquired]
    refine ⟨fun _ => ⟨among, one, one⟩, fun wrong => ?_,
      fun _ => ⟨fun _ => kept.starting.mp fresh, fun _ => rfl⟩, fun _ => ?_⟩
    · cases wrong
    · rw [KalmanFilter.InRange] at inRange
      push Not at inRange
      exact q16FromTicks_eq (abs_le.mpr inRange.symm)
  · have among := later.among (by rw [after, accepted]; exact initialized)
    have gain : 0 < gainFromRatio recorded.filter.pMinusQ30 ∧
        gainFromRatio recorded.filter.pMinusQ30 ≤ 1073741824 :=
      ⟨gainFromRatio_pos kept.bounded.pMinus_pos, gainFromRatio_le _⟩
    rw [accepted]
    refine ⟨fun _ => ⟨among, gain, gain⟩, fun wrong => ?_, fun _ => ⟨fun wrong => ?_,
      fun starting => ?_⟩, fun wrong => ?_⟩
    · cases wrong
    · cases wrong
    · rw [kept.starting.mpr starting] at initialized
      cases initialized
    · cases wrong
  · obtain ⟨spec, turned⟩ := KalmanFilter.reject_spec
      { recorded.filter with varianceRatioQ30 := variance }
    rw [rejected]
    refine ⟨fun wrong => ?_, fun _ => ?_, fun inRange => ⟨fun wrong => ?_, fun starting => ?_⟩,
      fun wrong => ?_⟩
    · rcases turned with same | same <;> rw [same] at wrong <;> cases wrong
    · rw [spec]
    · rcases turned with same | same <;> rw [same] at wrong <;> cases wrong
    · exact absurd ⟨inRange, kept.starting.mpr starting⟩ other
    · rcases turned with same | same <;> rw [same] at wrong <;> cases wrong

/-- The filter of the clock's profile, before any measurement. -/
def started : RecordedFilter where
  filter :=
    { nominalPeriod := 40000000, measurementVarianceQ16 := 65536, processRatioQ30 := 1048576 }

theorem started_starts : machine.start started :=
  ⟨40000000, 64, 65536, by decide, rfl, rfl, rfl⟩

/-- Its first two measurements, a tick apart. -/
theorem bounded_by_data_second :
    ((started.after 40000003).after 40000004).filter.pMinusQ30 ≤ 2147483648 ∧
      (((started.after 40000003).filter.update 40000004).1.turnedDown = false →
        ((started.after 40000003).after 40000004).Among) :=
  have first : machine.Reachable (fun _ _ => True) (started.after 40000003) :=
    (Machine.Reachable.start started_starts).step 40000003 trivial
  ⟨(bounded_by_data (first.step 40000004 trivial)).1,
    fun taken => (((bounded_by_data first).2.2 40000004).1 taken).1⟩

/-- The first measurement is taken as it is with none rejected before it. -/
theorem first_taken_unrejected :
    machine.Reachable (fun _ _ => True) started ∧ started.filter.InRange 40000003 ∧
      (started.filter.update 40000003).1 = .acquired ∧
      started.rejectsInARow < kalmanRejectLimit :=
  ⟨.start ⟨40000000, 64, 65536, by decide, rfl, rfl, rfl⟩, by decide, by decide, by decide⟩

end RecordedFilter

end GpsClock.Timing
