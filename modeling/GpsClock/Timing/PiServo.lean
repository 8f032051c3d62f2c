import GpsClock.Timing.Q16
import GpsClock.Lib.Machine

/-! # The PI servo

`servo.c`: the proportional and integral terms of one phase error. In every run the
integral and the corrections keep within the limits in force and no 32-bit sum wraps
(`GpsClock.Timing.EpochPiServo.bounded`).
-/

namespace GpsClock.Timing

structure EpochPiServo where
  kpQ16 : Int := 0
  kiQ16 : Int := 0
  integralLimitQ16 : Int := 0
  correctionLimitQ16 : Int := 0
  integralQ16 : Int := 0
  proportionalQ16 : Int := 0
  correctionQ16 : Int := 0
  enabled : Bool := false
  holding : Bool := false
  deriving DecidableEq, Repr

/-- The gains and limits `servo_pi_set_gains` is given. -/
structure ServoGains where
  kpQ16 : Int
  kiQ16 : Int
  integralLimitTicks : Int
  correctionLimitTicks : Int
  deriving DecidableEq, Repr

namespace EpochPiServo

/-- A limit in Q16, whichever its sign. -/
def limitQ16 (ticks : Int) : Int :=
  q16FromTicks (q16Clamp (if ticks < 0 then int32 (-ticks) else ticks) q16TickLimit)

/-- A gain of at most one. -/
def gainQ16 (gain : Int) : Int :=
  if gain < 0 then 0 else q16Clamp gain q16One

/-- `servo_pi_set_gains`. -/
def setGains (servo : EpochPiServo) (gains : ServoGains) : EpochPiServo :=
  { servo with
    kpQ16 := gainQ16 gains.kpQ16
    kiQ16 := gainQ16 gains.kiQ16
    integralLimitQ16 := limitQ16 gains.integralLimitTicks
    correctionLimitQ16 := limitQ16 gains.correctionLimitTicks
    integralQ16 := q16Clamp servo.integralQ16 (limitQ16 gains.integralLimitTicks) }

/-- `servo_pi_hold`. -/
def hold (servo : EpochPiServo) (holding : Bool) : EpochPiServo :=
  { servo with holding := holding }

/-- `servo_pi_enable`. -/
def enable (servo : EpochPiServo) (enabled : Bool) : EpochPiServo :=
  { servo with enabled := enabled }

/-- `servo_pi_reset_phase`. -/
def resetPhase (servo : EpochPiServo) : EpochPiServo :=
  { servo with proportionalQ16 := 0, correctionQ16 := servo.integralQ16 }

/-- `servo_pi_reset`. -/
def reset (servo : EpochPiServo) : EpochPiServo :=
  { servo with integralQ16 := 0 }.resetPhase

/-- `servo_pi_preload`. -/
def preload (servo : EpochPiServo) (integralQ16 : Int) : EpochPiServo :=
  { servo with integralQ16 := q16Clamp integralQ16 servo.integralLimitQ16 }

/-- `servo_pi_init`. -/
def init (gains : ServoGains) : EpochPiServo :=
  { ({} : EpochPiServo).setGains gains with enabled := false, holding := false }.reset

/-- The proportional term of a phase error. -/
def proportional (servo : EpochPiServo) (phaseErrorQ16 : Int) : Int :=
  q16Multiply servo.kpQ16 phaseErrorQ16

/-- What a phase error adds to the integral. -/
def integralStep (servo : EpochPiServo) (phaseErrorQ16 : Int) : Int :=
  q16Multiply servo.kiQ16 phaseErrorQ16

/-- `candidate_integral_q16`. -/
def candidateIntegral (servo : EpochPiServo) (phaseErrorQ16 : Int) : Int :=
  q16Clamp (int32 (servo.integralQ16 + servo.integralStep phaseErrorQ16)) servo.integralLimitQ16

/-- `candidate_correction_q16`. -/
def candidateCorrection (servo : EpochPiServo) (phaseErrorQ16 : Int) : Int :=
  int32 (servo.proportional phaseErrorQ16 + servo.candidateIntegral phaseErrorQ16)

/-- The integral would go further into saturation. -/
def Saturates (servo : EpochPiServo) (phaseErrorQ16 : Int) : Prop :=
  (servo.candidateCorrection phaseErrorQ16 > servo.correctionLimitQ16 ∧
      servo.integralStep phaseErrorQ16 > 0) ∨
    (servo.candidateCorrection phaseErrorQ16 < int32 (-servo.correctionLimitQ16) ∧
      servo.integralStep phaseErrorQ16 < 0)

instance (servo : EpochPiServo) (phaseErrorQ16 : Int) :
    Decidable (servo.Saturates phaseErrorQ16) :=
  inferInstanceAs (Decidable (_ ∨ _))

/-- The integral after a phase error: conditional integration. -/
def integrated (servo : EpochPiServo) (phaseErrorQ16 : Int) : Int :=
  if servo.holding = false ∧ ¬servo.Saturates phaseErrorQ16 then
    servo.candidateIntegral phaseErrorQ16
  else servo.integralQ16

/-- `servo_pi_update`: the correction, and the servo after it. -/
def update (servo : EpochPiServo) (phaseErrorQ16 : Int) : Int × EpochPiServo :=
  if servo.enabled then
    let correction := q16Clamp
      (int32 (servo.proportional phaseErrorQ16 + servo.integrated phaseErrorQ16))
      servo.correctionLimitQ16
    (correction,
      { servo with
        integralQ16 := servo.integrated phaseErrorQ16
        proportionalQ16 := servo.proportional phaseErrorQ16
        correctionQ16 := correction })
  else (0, servo)

/-- The sums an update forms in 32 bits, at full width. -/
def sums (servo : EpochPiServo) (phaseErrorQ16 : Int) : List Int :=
  [servo.integralQ16 + servo.integralStep phaseErrorQ16,
    servo.proportional phaseErrorQ16 + servo.candidateIntegral phaseErrorQ16,
    servo.proportional phaseErrorQ16 + servo.integrated phaseErrorQ16]

/-! ## Its runs -/

inductive Act
  | setGains (gains : ServoGains)
  | hold (holding : Bool)
  | enable (enabled : Bool)
  | reset
  | resetPhase
  | preload (integralQ16 : Int)
  | update (phaseErrorQ16 : Int)
  deriving DecidableEq, Repr

end EpochPiServo

namespace ServoGains

/-- Every argument is an `int32_t`, and a limit is one that can be negated. -/
structure Admitted (gains : ServoGains) : Prop where
  kp : Fits32 gains.kpQ16
  ki : Fits32 gains.kiQ16
  integralLimit : |gains.integralLimitTicks| ≤ 2147483647
  correctionLimit : |gains.correctionLimitTicks| ≤ 2147483647

end ServoGains

namespace EpochPiServo

def machine : Machine EpochPiServo Act where
  start := fun servo => ∃ gains : ServoGains, gains.Admitted ∧ servo = init gains
  step := fun servo act =>
    match act with
    | .setGains gains => servo.setGains gains
    | .hold holding => servo.hold holding
    | .enable enabled => servo.enable enabled
    | .reset => servo.reset
    | .resetPhase => servo.resetPhase
    | .preload integralQ16 => servo.preload integralQ16
    | .update phaseErrorQ16 => (servo.update phaseErrorQ16).2

/-- What the servo may be given. -/
def Admits (_ : EpochPiServo) : Act → Prop
  | .setGains gains => gains.Admitted
  | .preload integralQ16 => Fits32 integralQ16
  | .update phaseErrorQ16 => |phaseErrorQ16| ≤ q16Limit
  | _ => True

/-- The gains and limits in force, and the integral within its own. -/
structure Limited (servo : EpochPiServo) : Prop where
  kpLeast : 0 ≤ servo.kpQ16
  kpMost : servo.kpQ16 ≤ q16One
  kiLeast : 0 ≤ servo.kiQ16
  kiMost : servo.kiQ16 ≤ q16One
  integralLimitLeast : 0 ≤ servo.integralLimitQ16
  integralLimitMost : servo.integralLimitQ16 ≤ q16Limit
  correctionLimitLeast : 0 ≤ servo.correctionLimitQ16
  correctionLimitMost : servo.correctionLimitQ16 ≤ q16Limit
  integral : |servo.integralQ16| ≤ servo.integralLimitQ16

variable {servo : EpochPiServo} {gains : ServoGains} {phaseErrorQ16 : Int}

theorem limitQ16_range {ticks : Int} (fits : |ticks| ≤ 2147483647) :
    0 ≤ limitQ16 ticks ∧ limitQ16 ticks ≤ q16Limit := by
  obtain ⟨low, high⟩ := abs_le.mp fits
  have size : (if ticks < 0 then int32 (-ticks) else ticks) = |ticks| := by
    split
    · rw [int32_eq ⟨by omega, by omega⟩, abs_of_neg ‹_›]
    · rw [abs_of_nonneg (by omega)]
  have positive : 0 ≤ |ticks| := abs_nonneg ticks
  have clamped := q16Clamp_eq |ticks| (by decide : (0 : Int) ≤ q16TickLimit) (by decide)
  dsimp only [q16TickLimit] at clamped
  rw [limitQ16, size, clamped, q16FromTicks_eq]
  · dsimp only [q16One, q16Limit]
    omega
  · apply abs_le.mpr
    dsimp only [q16TickLimit]
    omega

theorem gainQ16_range (gain : Int) : 0 ≤ gainQ16 gain ∧ gainQ16 gain ≤ q16One := by
  have clamped := q16Clamp_eq gain (by decide : (0 : Int) ≤ q16One) (by decide)
  dsimp only [q16One] at clamped
  rw [gainQ16]
  split
  · exact ⟨le_rfl, by decide⟩
  · dsimp only [q16One]
    omega

theorem clamp_within (value : Int) {limit : Int} (least : 0 ≤ limit) (most : limit ≤ q16Limit) :
    |q16Clamp value limit| ≤ limit := by
  dsimp only [q16Limit] at most
  rw [q16Clamp_eq value least (by omega)]
  apply abs_le.mpr
  omega

/-- New gains and limits put everything within them, whatever the servo held. -/
theorem setGains_limited (servo : EpochPiServo) (admitted : gains.Admitted) :
    (servo.setGains gains).Limited := by
  obtain ⟨integralLeast, integralMost⟩ := limitQ16_range admitted.integralLimit
  obtain ⟨correctionLeast, correctionMost⟩ := limitQ16_range admitted.correctionLimit
  obtain ⟨kpLeast, kpMost⟩ := gainQ16_range gains.kpQ16
  obtain ⟨kiLeast, kiMost⟩ := gainQ16_range gains.kiQ16
  exact ⟨kpLeast, kpMost, kiLeast, kiMost, integralLeast, integralMost, correctionLeast,
    correctionMost, clamp_within _ integralLeast integralMost⟩

namespace Limited

theorem zero (limited : servo.Limited) : |(0 : Int)| ≤ servo.integralLimitQ16 :=
  limited.integralLimitLeast

theorem reset (limited : servo.Limited) : servo.reset.Limited :=
  { limited with integral := limited.zero }

theorem proportional (limited : servo.Limited) (small : |phaseErrorQ16| ≤ q16Limit) :
    |servo.proportional phaseErrorQ16| ≤ q16Limit :=
  q16Multiply_within limited.kpLeast limited.kpMost small

theorem integralStep (limited : servo.Limited) (small : |phaseErrorQ16| ≤ q16Limit) :
    |servo.integralStep phaseErrorQ16| ≤ q16Limit :=
  q16Multiply_within limited.kiLeast limited.kiMost small

/-- The candidate integral is within the limit, and on the step's side of the integral. -/
theorem candidateIntegral (limited : servo.Limited) (small : |phaseErrorQ16| ≤ q16Limit) :
    |servo.candidateIntegral phaseErrorQ16| ≤ servo.integralLimitQ16 ∧
      (0 ≤ servo.integralStep phaseErrorQ16 →
        servo.integralQ16 ≤ servo.candidateIntegral phaseErrorQ16) ∧
      (servo.integralStep phaseErrorQ16 ≤ 0 →
        servo.candidateIntegral phaseErrorQ16 ≤ servo.integralQ16) := by
  have step := abs_le.mp (limited.integralStep small)
  have least := limited.integralLimitLeast
  have most := limited.integralLimitMost
  have within := abs_le.mp limited.integral
  refine ⟨clamp_within _ least most, ?_⟩
  rw [EpochPiServo.candidateIntegral]
  dsimp only [q16Limit] at step most
  rw [int32_eq ⟨by omega, by omega⟩, q16Clamp_eq _ least (by omega)]
  exact ⟨fun _ => by omega, fun _ => by omega⟩

theorem integrated (limited : servo.Limited) (small : |phaseErrorQ16| ≤ q16Limit) :
    |servo.integrated phaseErrorQ16| ≤ servo.integralLimitQ16 := by
  rw [EpochPiServo.integrated]
  split
  · exact (limited.candidateIntegral small).1
  · exact limited.integral

theorem sums_fit (limited : servo.Limited) (small : |phaseErrorQ16| ≤ q16Limit) :
    ∀ sum ∈ servo.sums phaseErrorQ16, Fits32 sum := by
  have proportional := abs_le.mp (limited.proportional small)
  have step := abs_le.mp (limited.integralStep small)
  have most := limited.integralLimitMost
  have within := abs_le.mp limited.integral
  have candidate := abs_le.mp (limited.candidateIntegral small).1
  have kept := abs_le.mp (limited.integrated small)
  dsimp only [q16Limit] at proportional step most
  intro sum formed
  simp only [sums, List.mem_cons, List.not_mem_nil, or_false] at formed
  rcases formed with rfl | rfl | rfl
  · exact ⟨by omega, by omega⟩
  · exact ⟨by omega, by omega⟩
  · exact ⟨by omega, by omega⟩

theorem candidateCorrection_eq (limited : servo.Limited) (small : |phaseErrorQ16| ≤ q16Limit) :
    servo.candidateCorrection phaseErrorQ16 =
      servo.proportional phaseErrorQ16 + servo.candidateIntegral phaseErrorQ16 :=
  int32_eq (limited.sums_fit small _ (.tail _ (.head _)))

theorem correction (limited : servo.Limited) :
    |(servo.update phaseErrorQ16).1| ≤ servo.correctionLimitQ16 := by
  rw [update]
  split
  · exact clamp_within _ limited.correctionLimitLeast limited.correctionLimitMost
  · exact limited.correctionLimitLeast

theorem update (limited : servo.Limited) (small : |phaseErrorQ16| ≤ q16Limit) :
    (servo.update phaseErrorQ16).2.Limited := by
  rw [EpochPiServo.update]
  split
  · exact { limited with integral := limited.integrated small }
  · exact limited

/-- An integral the update moves was neither held nor led further into saturation. -/
theorem update_moves (limited : servo.Limited) (small : |phaseErrorQ16| ≤ q16Limit) :
    (servo.update phaseErrorQ16).2.integralQ16 = servo.integralQ16 ∨
      (servo.enabled = true ∧ servo.holding = false ∧
        (servo.update phaseErrorQ16).2.integralQ16 = servo.candidateIntegral phaseErrorQ16 ∧
        (servo.correctionLimitQ16 <
            servo.proportional phaseErrorQ16 + servo.candidateIntegral phaseErrorQ16 →
          servo.integralStep phaseErrorQ16 ≤ 0) ∧
        (servo.proportional phaseErrorQ16 + servo.candidateIntegral phaseErrorQ16 <
            -servo.correctionLimitQ16 →
          0 ≤ servo.integralStep phaseErrorQ16)) := by
  have most := limited.correctionLimitMost
  have least := limited.correctionLimitLeast
  dsimp only [q16Limit] at most
  have lowest : int32 (-servo.correctionLimitQ16) = -servo.correctionLimitQ16 :=
    int32_eq ⟨by omega, by omega⟩
  rw [EpochPiServo.update]
  by_cases enabled : servo.enabled = true
  · rw [if_pos enabled]
    dsimp only
    rw [EpochPiServo.integrated]
    by_cases free : servo.holding = false ∧ ¬servo.Saturates phaseErrorQ16
    · obtain ⟨released, room⟩ := free
      rw [if_pos ⟨released, room⟩]
      rw [Saturates, limited.candidateCorrection_eq small, lowest] at room
      push Not at room
      exact .inr ⟨enabled, released, rfl, room.1, room.2⟩
    · rw [if_neg free]
      exact .inl rfl
  · rw [if_neg enabled]
    exact .inl rfl

end Limited

theorem bounded : machine.Invariant Admits Limited where
  start := by
    rintro servo ⟨gains, admitted, rfl⟩
    exact { setGains_limited {} admitted with integral := (setGains_limited {} admitted).zero }
  step := by
    intro servo act limited admitted
    cases act with
    | setGains gains => exact setGains_limited servo admitted
    | hold holding => exact { limited with }
    | enable enabled => exact { limited with }
    | reset => exact limited.reset
    | resetPhase => exact { limited with }
    | preload integralQ16 =>
        exact { limited with
          integral := clamp_within _ limited.integralLimitLeast limited.integralLimitMost }
    | update phaseErrorQ16 => exact limited.update admitted

/-- The correction before it is limited, from the integral as the update leaves it. -/
def unclamped (servo : EpochPiServo) (phaseErrorQ16 : Int) : Int :=
  servo.proportional phaseErrorQ16 + servo.integrated phaseErrorQ16

/-- An update whose unlimited correction is beyond a limit moves the integral, if at all,
back from it. -/
theorem Limited.no_windup (limited : servo.Limited) (small : |phaseErrorQ16| ≤ q16Limit) :
    (servo.correctionLimitQ16 < servo.unclamped phaseErrorQ16 ∨
        servo.correctionLimitQ16 < servo.candidateCorrection phaseErrorQ16 →
      (servo.update phaseErrorQ16).2.integralQ16 ≤ servo.integralQ16) ∧
    (servo.unclamped phaseErrorQ16 < -servo.correctionLimitQ16 ∨
        servo.candidateCorrection phaseErrorQ16 < -servo.correctionLimitQ16 →
      servo.integralQ16 ≤ (servo.update phaseErrorQ16).2.integralQ16) := by
  obtain ⟨-, upward, downward⟩ := limited.candidateIntegral small
  rw [limited.candidateCorrection_eq small]
  rcases limited.update_moves small with same | ⟨enabled, -, moved, above, below⟩
  · exact ⟨fun _ => same.le, fun _ => same.ge⟩
  · have after : servo.integrated phaseErrorQ16 = servo.candidateIntegral phaseErrorQ16 := by
      rw [EpochPiServo.update, if_pos enabled] at moved
      exact moved
    rw [unclamped, after, moved, or_self, or_self]
    exact ⟨fun beyond => downward (above beyond), fun beyond => upward (below beyond)⟩

/-- Held or disabled, only a reset, a preload or a narrower limit changes the integral. -/
theorem Limited.frozen (limited : servo.Limited) {act : Act} (admitted : Admits servo act)
    (held : servo.holding = true ∨ servo.enabled = false) :
    (machine.step servo act).integralQ16 = servo.integralQ16 ∨ act = .reset ∨
      (∃ integralQ16, act = .preload integralQ16) ∨
      ∃ gains, act = .setGains gains ∧
        limitQ16 gains.integralLimitTicks < |servo.integralQ16| ∧
        |(machine.step servo act).integralQ16| = limitQ16 gains.integralLimitTicks := by
  cases act with
  | reset => exact .inr (.inl rfl)
  | preload integralQ16 => exact .inr (.inr (.inl ⟨_, rfl⟩))
  | hold holding => exact .inl rfl
  | enable enabled => exact .inl rfl
  | resetPhase => exact .inl rfl
  | update phaseErrorQ16 =>
      rcases limited.update_moves admitted with same | ⟨enabled, released, -⟩
      · exact .inl same
      · rw [enabled, released] at held
        rcases held with wrong | wrong <;> cases wrong
  | setGains gains =>
      change gains.Admitted at admitted
      obtain ⟨least, most⟩ := limitQ16_range admitted.integralLimit
      change q16Clamp servo.integralQ16 (limitQ16 gains.integralLimitTicks) = _ ∨ _
      dsimp only [q16Limit] at most
      have clamped := q16Clamp_eq servo.integralQ16 least (by omega)
      by_cases within : |servo.integralQ16| ≤ limitQ16 gains.integralLimitTicks
      · obtain ⟨low, high⟩ := abs_le.mp within
        exact .inl (by omega)
      · refine .inr (.inr (.inr ⟨gains, rfl, by omega, ?_⟩))
        change |q16Clamp servo.integralQ16 (limitQ16 gains.integralLimitTicks)| = _
        rw [clamped]
        rcases le_total 0 servo.integralQ16 with positive | negative
        · rw [abs_of_nonneg positive] at within
          rw [abs_of_nonneg] <;> omega
        · rw [abs_of_nonpos negative] at within
          rw [abs_of_nonpos] <;> omega

/-- In every run the integral is within its limit, every correction within its own, no sum
wraps, only a reset, a preload or a narrower limit changes an integral that is held or
disabled, and no update winds it further up. -/
theorem within_limits (reached : machine.Reachable Admits servo) :
    |servo.integralQ16| ≤ servo.integralLimitQ16 ∧
    (∀ act, Admits servo act → servo.holding = true ∨ servo.enabled = false →
      (machine.step servo act).integralQ16 = servo.integralQ16 ∨ act = .reset ∨
        (∃ integralQ16, act = .preload integralQ16) ∨
        ∃ gains, act = .setGains gains ∧
          limitQ16 gains.integralLimitTicks < |servo.integralQ16| ∧
          |(machine.step servo act).integralQ16| = limitQ16 gains.integralLimitTicks) ∧
    ∀ phaseErrorQ16, |phaseErrorQ16| ≤ q16Limit →
      |(servo.update phaseErrorQ16).1| ≤ servo.correctionLimitQ16 ∧
      (∀ sum ∈ servo.sums phaseErrorQ16, Fits32 sum) ∧
      (servo.correctionLimitQ16 < servo.unclamped phaseErrorQ16 ∨
          servo.correctionLimitQ16 < servo.candidateCorrection phaseErrorQ16 →
        (servo.update phaseErrorQ16).2.integralQ16 ≤ servo.integralQ16) ∧
      (servo.unclamped phaseErrorQ16 < -servo.correctionLimitQ16 ∨
          servo.candidateCorrection phaseErrorQ16 < -servo.correctionLimitQ16 →
        servo.integralQ16 ≤ (servo.update phaseErrorQ16).2.integralQ16) := by
  have limited := bounded.reachable reached
  refine ⟨limited.integral, fun act admitted held => limited.frozen admitted held,
    fun phaseErrorQ16 small => ?_⟩
  obtain ⟨above, below⟩ := limited.no_windup small
  exact ⟨limited.correction, limited.sums_fit small, above, below⟩

/-- Unity gains and the widest limits. -/
def widest : ServoGains := ⟨65536, 65536, 16383, 16383⟩

theorem widest_admitted : widest.Admitted where
  kp := by decide
  ki := by decide
  integralLimit := by decide
  correctionLimit := by decide

/-- A servo that has integrated one tick. -/
def integrating : EpochPiServo :=
  (((init widest).enable true).update 65536).2

theorem integrating_reached : machine.Reachable Admits integrating :=
  have start : machine.Reachable Admits (init widest) := .start ⟨widest, widest_admitted, rfl⟩
  (start.step (.enable true) trivial).step (.update 65536)
    (by change |(65536 : Int)| ≤ 1073676288; decide)

theorem integrating_within_limits : |integrating.integralQ16| ≤ integrating.integralLimitQ16 :=
  (within_limits integrating_reached).1

/-- A reset clears the integral of a servo that is held, and the most negative limit, which
no `int32_t` is the negative of, leaves one that the integral is beyond. -/
theorem held_reset_clears :
    ((integrating.hold true).holding = true ∧
      (integrating.hold true).reset.integralQ16 ≠ (integrating.hold true).integralQ16) ∧
    ¬|(init ⟨65536, 65536, -2147483648, 16383⟩).integralQ16| ≤
        (init ⟨65536, 65536, -2147483648, 16383⟩).integralLimitQ16 := by
  decide

end EpochPiServo

end GpsClock.Timing
