import GpsClock.Timing.ClosedLoop

/-! # Fractional periods

`servo_fraction_next` gives whole ticks and keeps the fraction it owes. Wherever the
periods asked for are ones a 32-bit count of ticks can say, what is given and what is owed
make up what was asked for, to the last 65536th of a tick
(`GpsClock.Timing.periods_sum`).
-/

namespace GpsClock.Timing

/-- The arguments of a call of `servo_fraction_next`. -/
structure PeriodRequest where
  nominalPeriod : BitVec 32
  offsetQ16 : BitVec 32
  deriving DecidableEq, Repr

namespace PeriodRequest

/-- The period asked for, in Q16 ticks. -/
def requestedQ16 (request : PeriodRequest) : Int :=
  65536 * request.nominalPeriod.toNat + request.offsetQ16.toInt

/-- At least a tick, and no more than 32 bits count. -/
def Countable (request : PeriodRequest) : Prop :=
  65536 ≤ request.requestedQ16 ∧ request.requestedQ16 ≤ 65536 * 4294967295

instance (request : PeriodRequest) : Decidable request.Countable :=
  inferInstanceAs (Decidable (_ ∧ _))

end PeriodRequest

/-- The periods of one accumulator's calls, and what it owes after them. -/
def servoPeriods (accumulatorQ16 : BitVec 16) :
    List PeriodRequest → List (BitVec 32) × BitVec 16
  | [] => ([], accumulatorQ16)
  | request :: requests =>
      let next := servoFractionNext accumulatorQ16 request.nominalPeriod request.offsetQ16
      let rest := servoPeriods next.2 requests
      (next.1 :: rest.1, rest.2)

/-- The periods given, in ticks. -/
def givenTicks (periods : List (BitVec 32)) : Int :=
  (periods.map fun period => (period.toNat : Int)).sum

/-- The periods asked for, in Q16 ticks. -/
def askedQ16 (requests : List PeriodRequest) : Int :=
  (requests.map PeriodRequest.requestedQ16).sum

variable {request : PeriodRequest} {requests : List PeriodRequest}

/-- A period and its remainder are the whole ticks and the fraction asked for, with what
was owed. -/
theorem servoFractionNext_exact (accumulatorQ16 : BitVec 16) (countable : request.Countable) :
    65536 * ((servoFractionNext accumulatorQ16 request.nominalPeriod
          request.offsetQ16).1.toNat : Int) +
        (servoFractionNext accumulatorQ16 request.nominalPeriod request.offsetQ16).2.toNat =
      request.requestedQ16 + accumulatorQ16.toNat := by
  obtain ⟨nominal, offset⟩ := request
  obtain ⟨least, most⟩ := countable
  dsimp only [PeriodRequest.requestedQ16] at least most ⊢
  have owedBound := accumulatorQ16.isLt
  have fraction : ((offset.toNat % 65536 : Nat) : Int) = offset.toInt % 65536 := by
    rw [BitVec.toInt_eq_toNat_cond]
    split <;> omega
  have parts := Int.mul_ediv_add_emod offset.toInt 65536
  have base := toNat_sub_ofInt nominal (-(offset.toInt / 65536))
  rw [BitVec.ofInt_neg, BitVec.sub_neg, sub_neg_eq_add] at base
  rw [servoFractionNext]
  dsimp only
  rw [whole_eq]
  generalize nominal + BitVec.ofInt 32 (offset.toInt / 65536) = period at base ⊢
  have whole : (period.toNat : Int) = nominal.toNat + offset.toInt / 65536 := by
    rw [base]
    exact Int.emod_eq_of_lt (by omega) (by omega)
  by_cases owed : 65536 ≤ accumulatorQ16.toNat + offset.toNat % 65536
  · have next : (period + 1).toNat = period.toNat + 1 := by
      rw [BitVec.toNat_add_of_lt]
      · rfl
      · change period.toNat + 1 < 4294967296
        omega
    have some : period + 1 ≠ 0 := by
      intro zero
      rw [zero] at next
      change 0 = _ at next
      omega
    rw [if_pos owed]
    dsimp only
    rw [if_pos some, next, BitVec.toNat_ofNat]
    push_cast
    omega
  · have some : period ≠ 0 := by
      rintro rfl
      change ((0 : Nat) : Int) = _ at whole
      omega
    rw [if_neg owed]
    dsimp only
    rw [if_pos some, BitVec.toNat_ofNat]
    push_cast
    omega

theorem servoPeriods_exact (accumulatorQ16 : BitVec 16)
    (countable : ∀ request ∈ requests, request.Countable) :
    65536 * givenTicks (servoPeriods accumulatorQ16 requests).1 +
        (servoPeriods accumulatorQ16 requests).2.toNat =
      askedQ16 requests + accumulatorQ16.toNat := by
  induction requests generalizing accumulatorQ16 with
  | nil => simp [servoPeriods, givenTicks, askedQ16]
  | cons request requests ih =>
      have first := servoFractionNext_exact accumulatorQ16 (countable request (.head _))
      have rest := ih (servoFractionNext accumulatorQ16 request.nominalPeriod request.offsetQ16).2
        fun later member => countable later (.tail _ member)
      dsimp only [servoPeriods, givenTicks, askedQ16] at rest ⊢
      rw [List.map_cons, List.map_cons, List.sum_cons, List.sum_cons]
      omega

/-- What is given and owed after any calls is what was asked for and owed before them, so
what is given is never a tick from what was asked for. -/
theorem periods_sum (accumulatorQ16 : BitVec 16) (requests : List PeriodRequest)
    (countable : ∀ request ∈ requests, request.Countable) :
    65536 * givenTicks (servoPeriods accumulatorQ16 requests).1 +
        (servoPeriods accumulatorQ16 requests).2.toNat =
      askedQ16 requests + accumulatorQ16.toNat ∧
    |65536 * givenTicks (servoPeriods accumulatorQ16 requests).1 - askedQ16 requests| < 65536 := by
  have exact := servoPeriods_exact accumulatorQ16 countable
  have before := accumulatorQ16.isLt
  have after := (servoPeriods accumulatorQ16 requests).2.isLt
  refine ⟨exact, abs_lt.mpr ?_⟩
  omega

/-- A second a quarter of a tick short, and one three quarters long. -/
theorem periods_sum_carries :
    65536 * givenTicks (servoPeriods 40000 [⟨40000000, -16384⟩, ⟨40000000, 49152⟩]).1 +
        (servoPeriods 40000 [⟨40000000, -16384⟩, ⟨40000000, 49152⟩]).2.toNat =
      askedQ16 [⟨40000000, -16384⟩, ⟨40000000, 49152⟩] + 40000 :=
  (periods_sum 40000 [⟨40000000, -16384⟩, ⟨40000000, 49152⟩] (by decide)).1

/-- One tick more than a 32-bit period counts: a single tick is given. -/
theorem uncountable_period :
    65536 ≤ (⟨4294967295, 65536⟩ : PeriodRequest).requestedQ16 ∧
      65536 * givenTicks (servoPeriods 0 [⟨4294967295, 65536⟩]).1 +
          (servoPeriods 0 [⟨4294967295, 65536⟩]).2.toNat ≠
        askedQ16 [⟨4294967295, 65536⟩] + (0 : BitVec 16).toNat := by
  decide

end GpsClock.Timing
