import DriveSim.Vehicle.Run

/-!
# The motor speed limit

The motor is cut off at `motor_max_speed_rad_per_sec`, so the limit can only be
overshot by the speed one step at full torque adds.
-/

namespace DriveSim

variable {K : Type*} [Field K]

namespace VehicleParams

/-- The vehicle speed at which the motor turns at its limit. -/
def speedLimit (p : VehicleParams K) : K :=
  p.motorMaxSpeedRadPerSec * p.wheelRadiusM / p.gearRatio

def fullTorqueGain (p : VehicleParams K) : K :=
  p.motorMaxTorqueNm * p.gearRatio / p.wheelRadiusM / p.massKg * dt

/-- The tractive force of a torque, as long as the motor is not cut off. -/
def traction (p : VehicleParams K) (torqueNm : K) : K :=
  torqueNm * p.gearRatio / p.wheelRadiusM

end VehicleParams

variable [LinearOrder K]

structure VehicleParams.Driveable (p : VehicleParams K) : Prop extends p.Resistive where
  radius_pos : 0 < p.wheelRadiusM
  gear_pos : 0 < p.gearRatio
  maxSpeed_nonneg : 0 ≤ p.motorMaxSpeedRadPerSec
  maxTorque_nonneg : 0 ≤ p.motorMaxTorqueNm

variable [IsStrictOrderedRing K]

theorem driveable_mainParams : (mainParams : VehicleParams K).Driveable where
  mass_pos := by norm_num [mainParams]
  rolling_nonneg := by norm_num [mainParams]
  area_nonneg := by norm_num [mainParams]
  radius_pos := by norm_num [mainParams]
  gear_pos := by norm_num [mainParams]
  maxSpeed_nonneg := by norm_num [mainParams]
  maxTorque_nonneg := by norm_num [mainParams]

theorem VehicleParams.Driveable.speedLimit_nonneg {p : VehicleParams K} (hp : p.Driveable) :
    0 ≤ p.speedLimit :=
  div_nonneg (mul_nonneg hp.maxSpeed_nonneg hp.radius_pos.le) hp.gear_pos.le

theorem VehicleParams.Driveable.fullTorqueGain_nonneg {p : VehicleParams K}
    (hp : p.Driveable) : 0 ≤ p.fullTorqueGain := by
  have htorque : 0 ≤ p.motorMaxTorqueNm * p.gearRatio :=
    mul_nonneg hp.maxTorque_nonneg hp.gear_pos.le
  exact mul_nonneg (div_nonneg (div_nonneg htorque hp.radius_pos.le) hp.mass_pos.le) dt_pos.le

theorem VehicleParams.fullTorqueGain_eq (p : VehicleParams K) : p.fullTorqueGain =
    p.motorMaxTorqueNm * p.gearRatio / (50 * p.wheelRadiusM * p.massKg) := by
  rw [fullTorqueGain, dt_eq, mul_one_div, div_div, div_div]
  congr 1
  ring

namespace Vehicle

theorem tractiveForce_of_overLimit {v : Vehicle K}
    (h : v.params.motorMaxSpeedRadPerSec ≤ |v.motorAngularSpeed|) : v.tractiveForce = 0 := by
  have hcut : v.motorTorque = 0 := by
    rw [motorTorque, absDouble_eq_abs, if_pos h]
  simp [tractiveForce, wheelTorque, hcut]

theorem tractiveForce_of_belowLimit {v : Vehicle K} (hradius : 0 < v.params.wheelRadiusM)
    (h : |v.motorAngularSpeed| < v.params.motorMaxSpeedRadPerSec) :
    v.tractiveForce = v.params.traction v.commandedTorqueNm := by
  rw [tractiveForce, if_pos hradius, wheelTorque, motorTorque, absDouble_eq_abs,
    if_neg h.not_ge, VehicleParams.traction]

/-- The motor is below its limit as long as the vehicle is below its own. -/
theorem abs_motorAngularSpeed_lt_iff {v : Vehicle K} (hradius : 0 < v.params.wheelRadiusM)
    (hgear : 0 < v.params.gearRatio) :
    |v.motorAngularSpeed| < v.params.motorMaxSpeedRadPerSec ↔
      |v.speedMPerS| < v.params.speedLimit := by
  rw [motorAngularSpeed, wheelAngularSpeed, if_pos hradius, abs_mul, abs_div,
    abs_of_pos hradius, abs_of_pos hgear, div_mul_eq_mul_div, div_lt_iff₀ hradius,
    VehicleParams.speedLimit, lt_div_iff₀ hgear]

theorem abs_motorTorque_le (v : Vehicle K) : |v.motorTorque| ≤ |v.commandedTorqueNm| := by
  unfold motorTorque
  split_ifs
  · simp
  · exact le_rfl

/-- The invariant of a run: the command stays in the motor's range and the speed in
the limit plus one step at full torque. -/
structure WithinLimit (v : Vehicle K) : Prop where
  driveable : v.params.Driveable
  torque : |v.commandedTorqueNm| ≤ v.params.motorMaxTorqueNm
  speed : |v.speedMPerS| ≤ v.params.speedLimit + v.params.fullTorqueGain

theorem withinLimit_init {p : VehicleParams K} (hp : p.Driveable) : (init p).WithinLimit where
  driveable := hp
  torque := by simpa using hp.maxTorque_nonneg
  speed := by simpa using add_nonneg hp.speedLimit_nonneg hp.fullTorqueGain_nonneg

theorem WithinLimit.setTorque {v : Vehicle K} (hv : v.WithinLimit) (t : K) :
    (v.setTorque t).WithinLimit where
  driveable := hv.driveable
  torque := abs_clamp_le hv.driveable.maxTorque_nonneg t
  speed := hv.speed

theorem WithinLimit.gain_le {v : Vehicle K} (hv : v.WithinLimit) :
    v.speedGain |v.tractiveForce| ≤ v.params.fullTorqueGain := by
  have hr := hv.driveable.radius_pos
  have hg := hv.driveable.gear_pos
  have hm := hv.driveable.mass_pos
  have htorque : |v.motorTorque| ≤ v.params.motorMaxTorqueNm :=
    v.abs_motorTorque_le.trans hv.torque
  rw [tractiveForce, if_pos hr, wheelTorque, abs_div, abs_mul, abs_of_pos hr, abs_of_pos hg,
    speedGain, VehicleParams.fullTorqueGain_eq, div_div]
  rw [show v.params.wheelRadiusM * (50 * v.params.massKg) =
    50 * v.params.wheelRadiusM * v.params.massKg by ring]
  gcongr

theorem WithinLimit.step50hz {v : Vehicle K} (hv : v.WithinLimit) :
    v.step50hz.WithinLimit where
  driveable := hv.driveable
  torque := hv.torque
  speed := by
    rw [step50hz_speedMPerS, step50hz_params]
    by_cases hover : v.params.motorMaxSpeedRadPerSec ≤ |v.motorAngularSpeed|
    · exact (v.abs_newSpeed_le_of_coasting hv.driveable.toResistive
        (tractiveForce_of_overLimit hover)).trans hv.speed
    · have hbelow : |v.speedMPerS| ≤ v.params.speedLimit :=
        ((abs_motorAngularSpeed_lt_iff hv.driveable.radius_pos hv.driveable.gear_pos).mp
          (not_le.mp hover)).le
      calc |v.newSpeed| ≤ |v.speedMPerS| + v.speedGain |v.tractiveForce| :=
            v.abs_newSpeed_le hv.driveable.toResistive
        _ ≤ v.params.speedLimit + v.params.fullTorqueGain := add_le_add hbelow hv.gain_le

/-- The speed limit holds along every run, and at or over the limit no step makes
the vehicle faster. -/
theorem speed_limit_invariant (p : VehicleParams K) (hmass : 0 < p.massKg)
    (hradius : 0 < p.wheelRadiusM) (hgear : 0 < p.gearRatio)
    (hmaxSpeed : 0 ≤ p.motorMaxSpeedRadPerSec) (hmaxTorque : 0 ≤ p.motorMaxTorqueNm)
    (hrolling : 0 ≤ p.rollingResistanceCoefficient) (harea : 0 ≤ p.frontalAreaM2)
    (ops : List (VehicleOp K)) :
    |((init p).run ops).speedMPerS| ≤
        p.motorMaxSpeedRadPerSec * p.wheelRadiusM / p.gearRatio +
          p.motorMaxTorqueNm * p.gearRatio / (50 * p.wheelRadiusM * p.massKg) ∧
      (p.motorMaxSpeedRadPerSec ≤ |((init p).run ops).motorAngularSpeed| →
        |((init p).run ops).step50hz.speedMPerS| ≤ |((init p).run ops).speedMPerS|) := by
  have hp : p.Driveable :=
    { mass_pos := hmass, rolling_nonneg := hrolling, area_nonneg := harea,
      radius_pos := hradius, gear_pos := hgear, maxSpeed_nonneg := hmaxSpeed,
      maxTorque_nonneg := hmaxTorque }
  have hinv : ((init p).run ops).WithinLimit :=
    run_invariant (fun _ t h => h.setTorque t) (fun _ h => h.step50hz) (withinLimit_init hp) ops
  have hspeed := hinv.speed
  rw [run_params, init_params, VehicleParams.speedLimit, VehicleParams.fullTorqueGain_eq]
    at hspeed
  refine ⟨hspeed, fun hover => ?_⟩
  exact abs_newSpeed_le_of_coasting _ hinv.driveable.toResistive
    (tractiveForce_of_overLimit (by simpa using hover))

/-- One step at full torque takes this vehicle past its limit of 1 m/s. -/
def overshootParams : VehicleParams ℚ where
  massKg := 1
  frontalAreaM2 := 0
  rollingResistanceCoefficient := 0
  motorMaxSpeedRadPerSec := 1
  motorMaxTorqueNm := 100
  gearRatio := 1
  wheelRadiusM := 1

def overshootRun : Vehicle ℚ := (init overshootParams).run [.setTorque 200, .step50hz]

theorem speed_limit_invariant_overshoot :
    |overshootRun.speedMPerS| ≤ 1 * 1 / 1 + 100 * 1 / (50 * 1 * 1) ∧
      |overshootRun.step50hz.speedMPerS| ≤ |overshootRun.speedMPerS| := by
  have h := speed_limit_invariant overshootParams (by decide) (by decide) (by decide)
    (by decide) (by decide) (by decide) (by decide) [.setTorque 200, .step50hz]
  exact ⟨h.1, h.2 (by decide +kernel)⟩

end Vehicle

end DriveSim
