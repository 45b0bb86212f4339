import DriveSim.Vehicle.Coasting
import DriveSim.Vehicle.SpeedLimit

/-!
# Driving forwards at constant torque

A constant torque that overcomes the rolling resistance leaves a step two possibilities:
full traction below the motor limit, and coasting at or over it.  However the two
alternate, the speed stays in a band round the limit once it has reached it, and the
Euler step does not overshoot the speed at which the drag balances the traction.
-/

namespace DriveSim

variable {K : Type*} [Field K] [LinearOrder K]

/-- A torque within the motor limit that overcomes the rolling resistance. -/
structure VehicleParams.Overcomes (p : VehicleParams K) (torqueNm : K) : Prop
    extends p.Resistive where
  radius_pos : 0 < p.wheelRadiusM
  gear_pos : 0 < p.gearRatio
  torque_pos : 0 < torqueNm
  torque_le : torqueNm ≤ p.motorMaxTorqueNm
  strong : p.rollingForceMagnitude < p.traction torqueNm

namespace Vehicle

/-- The vehicle after `n` steps from standstill at the commanded torque. -/
def drive (p : VehicleParams K) (torqueNm : K) (n : ℕ) : Vehicle K :=
  step50hz^[n] ((init p).setTorque torqueNm)

theorem drive_succ (p : VehicleParams K) (torqueNm : K) (n : ℕ) :
    drive p torqueNm (n + 1) = (drive p torqueNm n).step50hz :=
  Function.iterate_succ_apply' ..

@[simp] theorem drive_params (p : VehicleParams K) (torqueNm : K) (n : ℕ) :
    (drive p torqueNm n).params = p := by
  simp [drive, setTorque]

variable [IsStrictOrderedRing K]

theorem drive_commandedTorqueNm {p : VehicleParams K} {torqueNm : K} (hpos : 0 < torqueNm)
    (hmax : torqueNm ≤ p.motorMaxTorqueNm) (n : ℕ) :
    (drive p torqueNm n).commandedTorqueNm = torqueNm := by
  rw [drive, iterate_step50hz_commandedTorqueNm, setTorque_commandedTorqueNm, init_params]
  exact clamp_eq_self (by linarith) hmax

inductive DrivenStep (v : Vehicle K) : Prop
  | pulling (below : |v.motorAngularSpeed| < v.params.motorMaxSpeedRadPerSec)
      (speed : v.newSpeed = max 0 (v.speedMPerS + v.speedGain
        (v.params.traction v.commandedTorqueNm - v.params.dragFactor * v.speedMPerS ^ 2 -
          v.params.rollingForceMagnitude)))
  | cutOff (atLimit : v.params.motorMaxSpeedRadPerSec ≤ |v.motorAngularSpeed|)
      (nonneg : 0 ≤ v.newSpeed)
      (loss : v.speedMPerS - v.speedGain (v.params.rollingForceMagnitude +
        v.params.dragFactor * v.speedMPerS ^ 2) ≤ v.newSpeed)
      (slower : v.newSpeed ≤ v.speedMPerS)

theorem drivenStep (v : Vehicle K) (hp : v.params.Resistive)
    (hradius : 0 < v.params.wheelRadiusM) (hv : 0 ≤ v.speedMPerS)
    (hstrong : v.params.rollingForceMagnitude < v.params.traction v.commandedTorqueNm) :
    v.DrivenStep := by
  have hm := hp.mass_pos
  have hR := hp.rollingForceMagnitude_nonneg
  have hdrag : 0 ≤ v.params.dragFactor * v.speedMPerS ^ 2 := hp.drag_nonneg _
  rcases lt_or_ge |v.motorAngularSpeed| v.params.motorMaxSpeedRadPerSec with hbelow | hover
  · have hF := tractiveForce_of_belowLimit hradius hbelow
    refine .pulling hbelow ?_
    rw [← hF] at hstrong ⊢
    cases v.forwardStep hp hv with
    | held _ weak _ => exact absurd hstrong (le_trans (le_abs_self _) weak).not_gt
    | rolling _ speed => exact speed
    | pushedBack _ _ strong _ => linarith
    | reversing _ strong _ => linarith
  · have hF : v.tractiveForce = 0 := tractiveForce_of_overLimit hover
    have hslower := v.abs_newSpeed_le_of_coasting hp hF
    have hnonneg := coasting_step_nonneg hp hF hv
    rw [abs_of_nonneg hnonneg, abs_of_nonneg hv] at hslower
    refine .cutOff hover hnonneg ?_ hslower
    cases v.forwardStep hp hv with
    | held _ _ speed =>
        rw [speed]
        linarith [speedGain_nonneg hm (add_nonneg hR hdrag)]
    | rolling _ speed =>
        rw [speed, hF, show 0 - v.params.dragFactor * v.speedMPerS ^ 2 -
          v.params.rollingForceMagnitude = -(v.params.rollingForceMagnitude +
            v.params.dragFactor * v.speedMPerS ^ 2) by ring, speedGain_neg, ← sub_eq_add_neg]
        exact le_max_right _ _
    | pushedBack _ _ strong _ => linarith
    | reversing _ strong _ => linarith

section Drive

variable {p : VehicleParams K} {t : K} (h : p.Overcomes t) {n : ℕ}
include h

theorem drive_drivenStep (hv : 0 ≤ (drive p t n).speedMPerS) : (drive p t n).DrivenStep := by
  apply drivenStep
  · rw [drive_params]
    exact h.toResistive
  · rw [drive_params]
    exact h.radius_pos
  · exact hv
  · rw [drive_params, drive_commandedTorqueNm h.torque_pos h.torque_le]
    exact h.strong

theorem drive_pulling (hv : 0 ≤ (drive p t n).speedMPerS)
    (hbelow : |(drive p t n).motorAngularSpeed| < p.motorMaxSpeedRadPerSec) :
    (drive p t (n + 1)).speedMPerS = max 0 ((drive p t n).speedMPerS +
      (p.traction t - p.dragFactor * (drive p t n).speedMPerS ^ 2 - p.rollingForceMagnitude) /
        (50 * p.massKg)) := by
  rw [drive_succ, step50hz_speedMPerS]
  cases drive_drivenStep h hv with
  | pulling _ speed =>
      rwa [speedGain, drive_params, drive_commandedTorqueNm h.torque_pos h.torque_le] at speed
  | cutOff atLimit _ _ _ =>
      rw [drive_params] at atLimit
      exact absurd hbelow atLimit.not_gt

theorem drive_cutOff (hv : 0 ≤ (drive p t n).speedMPerS)
    (hover : p.motorMaxSpeedRadPerSec ≤ |(drive p t n).motorAngularSpeed|) :
    0 ≤ (drive p t (n + 1)).speedMPerS ∧
      (drive p t n).speedMPerS - (p.rollingForceMagnitude +
        p.dragFactor * (drive p t n).speedMPerS ^ 2) / (50 * p.massKg) ≤
          (drive p t (n + 1)).speedMPerS ∧
      (drive p t (n + 1)).speedMPerS ≤ (drive p t n).speedMPerS := by
  rw [drive_succ, step50hz_speedMPerS]
  cases drive_drivenStep h hv with
  | pulling below _ =>
      rw [drive_params] at below
      exact absurd hover below.not_ge
  | cutOff _ nonneg loss slower =>
      rw [speedGain, drive_params] at loss
      exact ⟨nonneg, loss, slower⟩

theorem drive_belowLimit_iff (hv : 0 ≤ (drive p t n).speedMPerS) :
    |(drive p t n).motorAngularSpeed| < p.motorMaxSpeedRadPerSec ↔
      (drive p t n).speedMPerS < p.speedLimit := by
  have hiff := abs_motorAngularSpeed_lt_iff (v := drive p t n) (by simpa using h.radius_pos)
    (by simpa using h.gear_pos)
  rwa [drive_params, abs_of_nonneg hv] at hiff

end Drive

/-! ## The band round the limit -/

section Band

variable {p : VehicleParams K} {t : K} (h : p.Overcomes t)
  (hreach : p.rollingForceMagnitude + p.dragFactor * p.speedLimit ^ 2 ≤ p.traction t)
include h hreach

/-- Neither kind of step leaves the band: the pull ends at the limit, and the loss is
largest at the upper edge. -/
theorem band_step {n : ℕ} (hv : 0 ≤ (drive p t n).speedMPerS)
    (hupper : (drive p t n).speedMPerS ≤ p.speedLimit + p.traction t / (50 * p.massKg)) :
    (0 ≤ (drive p t (n + 1)).speedMPerS ∧
      (drive p t (n + 1)).speedMPerS ≤ p.speedLimit + p.traction t / (50 * p.massKg)) ∧
    (p.speedLimit - (p.rollingForceMagnitude + p.dragFactor *
        (p.speedLimit + p.traction t / (50 * p.massKg)) ^ 2) / (50 * p.massKg) ≤
        (drive p t n).speedMPerS →
      p.speedLimit - (p.rollingForceMagnitude + p.dragFactor *
        (p.speedLimit + p.traction t / (50 * p.massKg)) ^ 2) / (50 * p.massKg) ≤
        (drive p t (n + 1)).speedMPerS) := by
  have hm := h.mass_pos
  have hR := h.rollingForceMagnitude_nonneg
  have hk := h.dragFactor_nonneg
  rcases lt_or_ge |(drive p t n).motorAngularSpeed| p.motorMaxSpeedRadPerSec with hbelow | hover
  · have hstep := drive_pulling h hv hbelow
    have hlt := (drive_belowLimit_iff h hv).mp hbelow
    generalize (drive p t n).speedMPerS = v at *
    have hdrag : p.dragFactor * v ^ 2 ≤ p.dragFactor * p.speedLimit ^ 2 := by gcongr
    have hgain : 0 ≤ (p.traction t - p.dragFactor * v ^ 2 - p.rollingForceMagnitude) /
        (50 * p.massKg) :=
      div_nonneg (by linarith) (by positivity)
    have hle : (p.traction t - p.dragFactor * v ^ 2 - p.rollingForceMagnitude) /
        (50 * p.massKg) ≤ p.traction t / (50 * p.massKg) := by
      have hdrag0 : 0 ≤ p.dragFactor * v ^ 2 := by positivity
      gcongr
      linarith
    rw [max_eq_right (by linarith)] at hstep
    exact ⟨⟨by linarith, by linarith⟩, fun hlower => by linarith⟩
  · obtain ⟨hnonneg, hloss, hslower⟩ := drive_cutOff h hv hover
    have hge : p.speedLimit ≤ (drive p t n).speedMPerS :=
      not_lt.mp (mt (drive_belowLimit_iff h hv).mpr hover.not_gt)
    have hlargest : (p.rollingForceMagnitude + p.dragFactor * (drive p t n).speedMPerS ^ 2) /
        (50 * p.massKg) ≤ (p.rollingForceMagnitude + p.dragFactor *
          (p.speedLimit + p.traction t / (50 * p.massKg)) ^ 2) / (50 * p.massKg) := by gcongr
    exact ⟨⟨hnonneg, by linarith⟩, fun _ => by linarith⟩

theorem band_upper (hlimit : 0 ≤ p.speedLimit) (n : ℕ) :
    0 ≤ (drive p t n).speedMPerS ∧
      (drive p t n).speedMPerS ≤ p.speedLimit + p.traction t / (50 * p.massKg) := by
  induction n with
  | zero =>
      have hgain : 0 ≤ p.traction t / (50 * p.massKg) :=
        div_nonneg (h.rollingForceMagnitude_nonneg.trans h.strong.le)
          (mul_nonneg (by norm_num) h.mass_pos.le)
      have hrest : (drive p t 0).speedMPerS = 0 := rfl
      rw [hrest]
      exact ⟨le_rfl, by linarith⟩
  | succ n ih => exact (band_step h hreach ih.1 ih.2).1

end Band

/-- Once the drive has reached the motor limit, its speed stays in a band round it. -/
theorem limiter_band (p : VehicleParams K) (t : K) (hmass : 0 < p.massKg)
    (hradius : 0 < p.wheelRadiusM) (hgear : 0 < p.gearRatio)
    (hmaxSpeed : 0 < p.motorMaxSpeedRadPerSec) (hrolling : 0 ≤ p.rollingResistanceCoefficient)
    (harea : 0 ≤ p.frontalAreaM2) (htorque : 0 < t) (hmaxTorque : t ≤ p.motorMaxTorqueNm)
    (hstrong : p.rollingForceMagnitude < p.traction t)
    (hreach : p.rollingForceMagnitude + p.dragFactor * p.speedLimit ^ 2 ≤ p.traction t)
    (i n : ℕ) (hlimit : p.speedLimit ≤ (drive p t i).speedMPerS) (hin : i ≤ n) :
    p.speedLimit - (p.rollingForceMagnitude + p.dragFactor *
        (p.speedLimit + p.traction t / (50 * p.massKg)) ^ 2) / (50 * p.massKg) ≤
        (drive p t n).speedMPerS ∧
      (drive p t n).speedMPerS ≤ p.speedLimit + p.traction t / (50 * p.massKg) := by
  have h : p.Overcomes t :=
    { mass_pos := hmass, rolling_nonneg := hrolling, area_nonneg := harea,
      radius_pos := hradius, gear_pos := hgear, torque_pos := htorque,
      torque_le := hmaxTorque, strong := hstrong }
  have hvl : 0 ≤ p.speedLimit :=
    div_nonneg (mul_nonneg hmaxSpeed.le hradius.le) hgear.le
  have hupper := band_upper h hreach hvl
  refine ⟨?_, (hupper n).2⟩
  induction n, hin using Nat.le_induction with
  | base =>
      have hR := h.rollingForceMagnitude_nonneg
      have hk := h.dragFactor_nonneg
      have hloss : 0 ≤ (p.rollingForceMagnitude + p.dragFactor *
          (p.speedLimit + p.traction t / (50 * p.massKg)) ^ 2) / (50 * p.massKg) := by positivity
      linarith
  | succ n _ ih => exact (band_step h hreach (hupper n).1 (hupper n).2).2 ih

/-- A light vehicle that reaches its limit of 1 m/s within six steps at 100 Nm. -/
def limiterParams : VehicleParams ℚ where
  massKg := 10
  frontalAreaM2 := 1
  rollingResistanceCoefficient := 0.01
  motorMaxSpeedRadPerSec := 1
  motorMaxTorqueNm := 100
  gearRatio := 1
  wheelRadiusM := 1

theorem limiter_band_light :
    limiterParams.speedLimit - (limiterParams.rollingForceMagnitude + limiterParams.dragFactor *
        (limiterParams.speedLimit + limiterParams.traction 100 / (50 * 10)) ^ 2) / (50 * 10) ≤
        (drive limiterParams 100 1000).speedMPerS ∧
      (drive limiterParams 100 1000).speedMPerS ≤
        limiterParams.speedLimit + limiterParams.traction 100 / (50 * 10) :=
  limiter_band limiterParams 100 (by decide) (by decide) (by decide) (by decide) (by decide +kernel)
    (by decide) (by decide) (by decide) (by decide +kernel) (by decide +kernel) 6 1000
    (by decide +kernel) (by decide)

/-! ## The terminal speed -/

/-- Below the terminal speed an Euler step ends below the terminal speed. -/
theorem euler_step_le {k m surplus v : K} (hm : 0 < m) (hk : 0 ≤ k)
    (hstep : 4 * k * surplus / 2500 ≤ m ^ 2) (hbelow : k * v ^ 2 ≤ surplus) :
    k * (v + (surplus - k * v ^ 2) / (50 * m)) ^ 2 ≤ surplus := by
  -- `w` is the drag loss of a step per unit of speed, `q` measures the step size.
  set w := k * v / (50 * m) with hw
  set q := k * (surplus - k * v ^ 2) / (2500 * m ^ 2) with hq
  have hsum : w ^ 2 + q ≤ 1 / 4 := by
    have heq : w ^ 2 + q = k * surplus / (2500 * m ^ 2) := by
      rw [hw, hq]
      field_simp
      ring
    rw [heq, div_le_iff₀ (by positivity)]
    linarith
  have hw_le : w ≤ 1 / 2 := by
    have hq0 : 0 ≤ q := div_nonneg (mul_nonneg hk (sub_nonneg.mpr hbelow)) (by positivity)
    nlinarith
  have hfactor : 2 * w + q ≤ 1 := by nlinarith
  calc k * (v + (surplus - k * v ^ 2) / (50 * m)) ^ 2
      = k * v ^ 2 + (surplus - k * v ^ 2) * (2 * w + q) := by
        rw [hw, hq]
        field_simp
        ring
    _ ≤ k * v ^ 2 + (surplus - k * v ^ 2) * 1 := by
        have hsurplus : 0 ≤ surplus - k * v ^ 2 := sub_nonneg.mpr hbelow
        gcongr
    _ = surplus := by ring

theorem drive_below_terminal {p : VehicleParams K} {t : K} (h : p.Overcomes t)
    (hstep : 4 * p.dragFactor * (p.traction t - p.rollingForceMagnitude) / 2500 ≤
      p.massKg ^ 2) (n : ℕ) :
    0 ≤ (drive p t n).speedMPerS ∧ p.dragFactor * (drive p t n).speedMPerS ^ 2 ≤
      p.traction t - p.rollingForceMagnitude := by
  have hm := h.mass_pos
  have hk := h.dragFactor_nonneg
  induction n with
  | zero =>
      have hrest : (drive p t 0).speedMPerS = 0 := rfl
      rw [hrest, zero_pow two_ne_zero, mul_zero]
      exact ⟨le_rfl, sub_nonneg.mpr h.strong.le⟩
  | succ n ih =>
      obtain ⟨hv, hbelow⟩ := ih
      rcases lt_or_ge |(drive p t n).motorAngularSpeed| p.motorMaxSpeedRadPerSec with hlt | hover
      · have hgain : 0 ≤ (p.traction t - p.rollingForceMagnitude -
            p.dragFactor * (drive p t n).speedMPerS ^ 2) / (50 * p.massKg) :=
          div_nonneg (sub_nonneg.mpr hbelow) (by positivity)
        have hnext := drive_pulling h hv hlt
        rw [sub_right_comm, max_eq_right (by linarith)] at hnext
        rw [hnext]
        exact ⟨by linarith, euler_step_le hm hk hstep hbelow⟩
      · obtain ⟨hnonneg, -, hslower⟩ := drive_cutOff h hv hover
        refine ⟨hnonneg, le_trans ?_ hbelow⟩
        gcongr

/-- The step size `main` simulates with is small enough for every torque of its motor. -/
theorem mainParams_step_size {t : K} (hmax : t ≤ 220) :
    4 * (mainParams : VehicleParams K).dragFactor *
      ((mainParams : VehicleParams K).traction t -
        (mainParams : VehicleParams K).rollingForceMagnitude) / 2500 ≤
      (mainParams : VehicleParams K).massKg ^ 2 := by
  simp only [VehicleParams.dragFactor, VehicleParams.traction,
    VehicleParams.rollingForceMagnitude, mainParams, airDensityKgPerM3, dragCoefficient,
    gravityMPerS2]
  norm_num
  linarith

/-- The Euler step stays below the speed at which drag and rolling resistance balance the
traction, and below the motor limit it never slows the vehicle; the step size it needs is
the one of `main` at every torque its server accepts. -/
theorem no_overshoot (p : VehicleParams K) (t : K) (hmass : 0 < p.massKg)
    (hradius : 0 < p.wheelRadiusM) (hgear : 0 < p.gearRatio)
    (hrolling : 0 ≤ p.rollingResistanceCoefficient) (harea : 0 ≤ p.frontalAreaM2)
    (htorque : 0 < t) (hmaxTorque : t ≤ p.motorMaxTorqueNm)
    (hstrong : p.rollingForceMagnitude < p.traction t)
    (hstep : 4 * p.dragFactor * (p.traction t - p.rollingForceMagnitude) / 2500 ≤
      p.massKg ^ 2) :
    (∀ n, 0 ≤ (drive p t n).speedMPerS ∧
      p.dragFactor * (drive p t n).speedMPerS ^ 2 ≤ p.traction t - p.rollingForceMagnitude ∧
      (|(drive p t n).motorAngularSpeed| < p.motorMaxSpeedRadPerSec →
        (drive p t n).speedMPerS ≤ (drive p t (n + 1)).speedMPerS)) ∧
    ∀ t' : K, 0 < t' → t' ≤ 220 →
      (mainParams : VehicleParams K).rollingForceMagnitude < mainParams.traction t' →
      4 * (mainParams : VehicleParams K).dragFactor *
        (mainParams.traction t' - mainParams.rollingForceMagnitude) / 2500 ≤
        mainParams.massKg ^ 2 := by
  have h : p.Overcomes t :=
    { mass_pos := hmass, rolling_nonneg := hrolling, area_nonneg := harea,
      radius_pos := hradius, gear_pos := hgear, torque_pos := htorque,
      torque_le := hmaxTorque, strong := hstrong }
  refine ⟨fun n => ?_, fun t' _ hmax _ => mainParams_step_size hmax⟩
  obtain ⟨hv, hbelow⟩ := drive_below_terminal h hstep n
  refine ⟨hv, hbelow, fun hlt => ?_⟩
  have hgain : 0 ≤ (p.traction t - p.dragFactor * (drive p t n).speedMPerS ^ 2 -
      p.rollingForceMagnitude) / (50 * p.massKg) :=
    div_nonneg (by linarith) (by positivity)
  rw [drive_pulling h hv hlt]
  exact le_max_of_le_right (by linarith)

theorem no_overshoot_main :
    0 ≤ (drive (mainParams : VehicleParams ℚ) 220 1000).speedMPerS ∧
    mainParams.dragFactor * (drive mainParams 220 1000).speedMPerS ^ 2 ≤
      mainParams.traction 220 - (mainParams : VehicleParams ℚ).rollingForceMagnitude ∧
    (|(drive (mainParams : VehicleParams ℚ) 220 1000).motorAngularSpeed| < 1200 →
      (drive (mainParams : VehicleParams ℚ) 220 1000).speedMPerS ≤
        (drive mainParams 220 1001).speedMPerS) :=
  (no_overshoot mainParams 220 (by decide +kernel) (by decide +kernel) (by decide +kernel)
    (by decide +kernel) (by decide +kernel) (by decide +kernel) (by decide +kernel)
    (by decide +kernel) (by decide +kernel)).1 1000

end Vehicle

end DriveSim
