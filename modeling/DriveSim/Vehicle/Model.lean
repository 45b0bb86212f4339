import Mathlib.Algebra.Order.Field.Basic
import Mathlib.Algebra.Order.Ring.Unbundled.Rat
import Mathlib.Tactic.Linarith
import Mathlib.Tactic.NormNum.OfScientific

/-!
# The drive model of `Vehicle.c`

The source computes in `double`; here the arithmetic is exact, over an arbitrary
linearly ordered field `K`.  Every local variable of `Vehicle_step_50hz` is a
definition of its own, in the order of the source.
-/

namespace DriveSim

/-- `VEHICLE_UPDATE_HZ`: the simulation advances fifty times a second. -/
def vehicleUpdateHz : Nat := 50

structure VehicleParams (K : Type*) where
  massKg : K
  frontalAreaM2 : K
  rollingResistanceCoefficient : K
  motorMaxSpeedRadPerSec : K
  motorMaxTorqueNm : K
  gearRatio : K
  wheelRadiusM : K
deriving DecidableEq

def mainParams {K : Type*} [Field K] : VehicleParams K where
  massKg := 1600
  frontalAreaM2 := 2.2
  rollingResistanceCoefficient := 0.015
  motorMaxSpeedRadPerSec := 1200
  motorMaxTorqueNm := 220
  gearRatio := 9.1
  wheelRadiusM := 0.31

structure Vehicle (K : Type*) where
  params : VehicleParams K
  commandedTorqueNm : K
  speedMPerS : K
  distanceM : K
deriving DecidableEq

def clamp {K : Type*} [LinearOrder K] (value minValue maxValue : K) : K :=
  if value < minValue then minValue
  else if maxValue < value then maxValue
  else value

section Model

variable {K : Type*} [Field K] [LinearOrder K]

def absDouble (value : K) : K :=
  if value < 0 then -value else value

def signDouble (value : K) : K :=
  if 0 < value then 1
  else if value < 0 then -1
  else 0

/-! ## Constants of `Vehicle_step_50hz` -/

def dt : K := 1 / (vehicleUpdateHz : K)

def airDensityKgPerM3 : K := 1.225

def dragCoefficient : K := 1

def gravityMPerS2 : K := 9.81

def minSpeedEpsilon : K := 1e-6

def VehicleParams.rollingForceMagnitude (p : VehicleParams K) : K :=
  p.rollingResistanceCoefficient * p.massKg * gravityMPerS2

omit [LinearOrder K] in
theorem VehicleParams.rollingForceMagnitude_eq (p : VehicleParams K) :
    p.rollingForceMagnitude = p.rollingResistanceCoefficient * p.massKg * 9.81 := rfl

namespace Vehicle

def init (p : VehicleParams K) : Vehicle K where
  params := p
  commandedTorqueNm := 0
  speedMPerS := 0
  distanceM := 0

/-- `Vehicle_set_torque`: the command never leaves the motor's range. -/
def setTorque (v : Vehicle K) (torqueNm : K) : Vehicle K :=
  { v with commandedTorqueNm :=
      clamp torqueNm (-v.params.motorMaxTorqueNm) v.params.motorMaxTorqueNm }

def wheelAngularSpeed (v : Vehicle K) : K :=
  if 0 < v.params.wheelRadiusM then v.speedMPerS / v.params.wheelRadiusM else 0

def motorAngularSpeed (v : Vehicle K) : K :=
  v.wheelAngularSpeed * v.params.gearRatio

/-- At its limit speed the motor adds no torque. -/
def motorTorque (v : Vehicle K) : K :=
  if v.params.motorMaxSpeedRadPerSec ≤ absDouble v.motorAngularSpeed then 0
  else v.commandedTorqueNm

def wheelTorque (v : Vehicle K) : K :=
  v.motorTorque * v.params.gearRatio

def tractiveForce (v : Vehicle K) : K :=
  if 0 < v.params.wheelRadiusM then v.wheelTorque / v.params.wheelRadiusM else 0

def dragForce (v : Vehicle K) : K :=
  0.5 * airDensityKgPerM3 * dragCoefficient * v.params.frontalAreaM2 * v.speedMPerS *
    absDouble v.speedMPerS

/-- Drag plus rolling resistance.  Below `minSpeedEpsilon` the vehicle sticks:
traction too weak to overcome the rolling force is cancelled. -/
def opposingForce (v : Vehicle K) : K :=
  if minSpeedEpsilon < absDouble v.speedMPerS then
    v.dragForce + v.params.rollingForceMagnitude * signDouble v.speedMPerS
  else if absDouble v.tractiveForce ≤ v.params.rollingForceMagnitude then
    v.tractiveForce
  else
    v.dragForce + v.params.rollingForceMagnitude * signDouble v.tractiveForce

def netForce (v : Vehicle K) : K :=
  v.tractiveForce - v.opposingForce

def acceleration (v : Vehicle K) : K :=
  if 0 < v.params.massKg then v.netForce / v.params.massKg else 0

/-- The Euler step, before the zero crossing is cut off. -/
def integratedSpeed (v : Vehicle K) : K :=
  v.speedMPerS + v.acceleration * dt

/-- The speed may not jump over zero within one step. -/
def newSpeed (v : Vehicle K) : K :=
  if 0 < v.speedMPerS ∧ v.integratedSpeed < 0 then 0
  else if v.speedMPerS < 0 ∧ 0 < v.integratedSpeed then 0
  else v.integratedSpeed

/-- `Vehicle_step_50hz`; the distance follows the trapezoid rule. -/
def step50hz (v : Vehicle K) : Vehicle K :=
  { v with
    speedMPerS := v.newSpeed
    distanceM := v.distanceM + 0.5 * (v.speedMPerS + v.newSpeed) * dt }

theorem setTorque_commandedTorqueNm (v : Vehicle K) (t : K) :
    (v.setTorque t).commandedTorqueNm =
      clamp t (-v.params.motorMaxTorqueNm) v.params.motorMaxTorqueNm := rfl

@[simp] theorem step50hz_params (v : Vehicle K) : v.step50hz.params = v.params := rfl

@[simp] theorem step50hz_commandedTorqueNm (v : Vehicle K) :
    v.step50hz.commandedTorqueNm = v.commandedTorqueNm := rfl

@[simp] theorem step50hz_speedMPerS (v : Vehicle K) :
    v.step50hz.speedMPerS = v.newSpeed := rfl

theorem step50hz_distanceM (v : Vehicle K) :
    v.step50hz.distanceM = v.distanceM + 0.5 * (v.speedMPerS + v.newSpeed) * dt := rfl

end Vehicle

end Model

section Init

variable {K : Type*} [Field K] (p : VehicleParams K)

namespace Vehicle

@[simp] theorem init_params : (init p).params = p := rfl

@[simp] theorem init_commandedTorqueNm : (init p).commandedTorqueNm = 0 := rfl

@[simp] theorem init_speedMPerS : (init p).speedMPerS = 0 := rfl

@[simp] theorem init_distanceM : (init p).distanceM = 0 := rfl

end Vehicle

end Init

/-! ## The arithmetic helpers -/

section Order

variable {K : Type*} [Field K] [LinearOrder K]

theorem signDouble_of_pos {x : K} (h : 0 < x) : signDouble x = 1 := if_pos h

theorem signDouble_of_neg {x : K} (h : x < 0) : signDouble x = -1 := by
  rw [signDouble, if_neg h.le.not_gt, if_pos h]

@[simp] theorem signDouble_zero : signDouble (0 : K) = 0 := by
  simp [signDouble]

end Order

theorem clamp_eq_self {K : Type*} [LinearOrder K] {x lo hi : K} (hlo : lo ≤ x)
    (hhi : x ≤ hi) : clamp x lo hi = x := by
  rw [clamp, if_neg hlo.not_gt, if_neg hhi.not_gt]

section Arithmetic

variable {K : Type*} [Field K] [LinearOrder K] [IsStrictOrderedRing K]

@[simp] theorem absDouble_eq_abs (x : K) : absDouble x = |x| := by
  unfold absDouble
  split_ifs with h
  · exact (abs_of_neg h).symm
  · exact (abs_of_nonneg (not_lt.mp h)).symm

@[simp] theorem signDouble_neg (x : K) : signDouble (-x) = -signDouble x := by
  rcases lt_trichotomy x 0 with h | h | h
  · rw [signDouble_of_neg h, signDouble_of_pos (neg_pos.mpr h), neg_neg]
  · simp [h]
  · rw [signDouble_of_pos h, signDouble_of_neg (neg_neg_of_pos h)]

theorem signDouble_mul {l : K} (hl : 0 < l) (x : K) : signDouble (l * x) = signDouble x := by
  have hneg : l * x < 0 ↔ x < 0 := by simp [mul_neg_iff, hl, hl.not_gt]
  simp only [signDouble, mul_pos_iff_of_pos_left hl, hneg]

theorem signDouble_mul_abs (x : K) : signDouble x * |x| = x := by
  rcases lt_trichotomy x 0 with h | h | h
  · rw [signDouble_of_neg h, abs_of_neg h, neg_one_mul, neg_neg]
  · simp [h]
  · rw [signDouble_of_pos h, abs_of_pos h, one_mul]

theorem abs_clamp_le {bound : K} (hbound : 0 ≤ bound) (x : K) :
    |clamp x (-bound) bound| ≤ bound := by
  unfold clamp
  split_ifs with hlo hhi
  · rw [abs_neg, abs_of_nonneg hbound]
  · exact (abs_of_nonneg hbound).le
  · exact abs_le.mpr ⟨not_lt.mp hlo, not_lt.mp hhi⟩

end Arithmetic

end DriveSim
