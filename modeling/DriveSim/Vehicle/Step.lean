import DriveSim.Vehicle.Model
import Mathlib.Tactic.FieldSimp
import Mathlib.Tactic.Positivity
import Mathlib.Tactic.Ring

/-!
# What one simulation step can do

Two facts carry every later proof about the drive.  Reversing torque, speed and
distance commutes with the step (`step50hz_mirror`), so only forward motion has
to be analysed; and `forwardStep` lists, once and for all, the new speeds a step
that starts at a speed `0 ≤ v` can produce.
-/

namespace DriveSim

section Forces

variable {K : Type*} [Field K]

namespace Vehicle

def mirror (v : Vehicle K) : Vehicle K where
  params := v.params
  commandedTorqueNm := -v.commandedTorqueNm
  speedMPerS := -v.speedMPerS
  distanceM := -v.distanceM

@[simp] theorem mirror_params (v : Vehicle K) : v.mirror.params = v.params := rfl

@[simp] theorem mirror_commandedTorqueNm (v : Vehicle K) :
    v.mirror.commandedTorqueNm = -v.commandedTorqueNm := rfl

@[simp] theorem mirror_speedMPerS (v : Vehicle K) :
    v.mirror.speedMPerS = -v.speedMPerS := rfl

def speedGain (v : Vehicle K) (f : K) : K := f / (50 * v.params.massKg)

theorem speedGain_neg (v : Vehicle K) (f : K) : v.speedGain (-f) = -v.speedGain f :=
  neg_div _ f

end Vehicle

end Forces

variable {K : Type*} [Field K] [LinearOrder K]

/-- `0.5 * air_density * drag_coefficient * frontal_area`: the factor of the
signed square of the speed in `drag_force`. -/
def VehicleParams.dragFactor (p : VehicleParams K) : K :=
  0.5 * airDensityKgPerM3 * dragCoefficient * p.frontalAreaM2

omit [LinearOrder K] in
theorem VehicleParams.dragFactor_eq (p : VehicleParams K) :
    p.dragFactor = 0.5 * 1.225 * p.frontalAreaM2 := by
  rw [dragFactor, airDensityKgPerM3, dragCoefficient, mul_one]

/-- A positive mass and resistances that do not drive the vehicle. -/
structure VehicleParams.Resistive (p : VehicleParams K) : Prop where
  mass_pos : 0 < p.massKg
  rolling_nonneg : 0 ≤ p.rollingResistanceCoefficient
  area_nonneg : 0 ≤ p.frontalAreaM2

namespace Vehicle

theorem dragForce_eq (v : Vehicle K) :
    v.dragForce = v.params.dragFactor * v.speedMPerS * absDouble v.speedMPerS := rfl

@[simp] theorem motorAngularSpeed_mirror (v : Vehicle K) :
    v.mirror.motorAngularSpeed = -v.motorAngularSpeed := by
  by_cases h : 0 < v.params.wheelRadiusM
  · simp [motorAngularSpeed, wheelAngularSpeed, h, neg_div]
  · simp [motorAngularSpeed, wheelAngularSpeed, h]

theorem newSpeed_of_pos (v : Vehicle K) (hv : 0 < v.speedMPerS) :
    v.newSpeed = max 0 v.integratedSpeed := by
  unfold newSpeed
  split_ifs with h₁ h₂
  · exact (max_eq_left h₁.2.le).symm
  · exact absurd h₂.1 hv.le.not_gt
  · exact (max_eq_right (not_lt.mp fun h => h₁ ⟨hv, h⟩)).symm

theorem newSpeed_nonneg_of_pos (v : Vehicle K) (hv : 0 < v.speedMPerS) : 0 ≤ v.newSpeed := by
  rw [v.newSpeed_of_pos hv]
  exact le_max_left _ _

theorem newSpeed_of_zero (v : Vehicle K) (hv : v.speedMPerS = 0) :
    v.newSpeed = v.integratedSpeed := by
  simp [newSpeed, hv]

end Vehicle

variable [IsStrictOrderedRing K]

theorem dt_eq : (dt : K) = 1 / 50 := by
  norm_num [dt, vehicleUpdateHz]

theorem dt_pos : (0 : K) < dt := by
  rw [dt_eq]
  norm_num

theorem gravityMPerS2_pos : (0 : K) < gravityMPerS2 := by
  norm_num [gravityMPerS2]

theorem minSpeedEpsilon_pos : (0 : K) < minSpeedEpsilon := by
  norm_num [minSpeedEpsilon]

namespace VehicleParams.Resistive

variable {p : VehicleParams K}

theorem rollingForceMagnitude_nonneg (hp : p.Resistive) : 0 ≤ p.rollingForceMagnitude :=
  mul_nonneg (mul_nonneg hp.rolling_nonneg hp.mass_pos.le) gravityMPerS2_pos.le

theorem dragFactor_nonneg (hp : p.Resistive) : 0 ≤ p.dragFactor := by
  have harea := hp.area_nonneg
  rw [dragFactor_eq]
  positivity

theorem drag_nonneg (hp : p.Resistive) (speed : K) : 0 ≤ p.dragFactor * speed ^ 2 :=
  mul_nonneg hp.dragFactor_nonneg (sq_nonneg speed)

end VehicleParams.Resistive

namespace Vehicle

/-! ## Mirror symmetry -/

@[simp] theorem motorTorque_mirror (v : Vehicle K) :
    v.mirror.motorTorque = -v.motorTorque := by
  simp only [motorTorque, motorAngularSpeed_mirror, absDouble_eq_abs, abs_neg,
    mirror_params, mirror_commandedTorqueNm]
  split_ifs <;> simp

@[simp] theorem tractiveForce_mirror (v : Vehicle K) :
    v.mirror.tractiveForce = -v.tractiveForce := by
  simp only [tractiveForce, wheelTorque, motorTorque_mirror, mirror_params]
  split_ifs <;> ring

@[simp] theorem dragForce_mirror (v : Vehicle K) : v.mirror.dragForce = -v.dragForce := by
  simp only [dragForce_eq, mirror_params, mirror_speedMPerS, absDouble_eq_abs, abs_neg]
  ring

@[simp] theorem opposingForce_mirror (v : Vehicle K) :
    v.mirror.opposingForce = -v.opposingForce := by
  simp only [opposingForce, tractiveForce_mirror, dragForce_mirror, mirror_params,
    mirror_speedMPerS, absDouble_eq_abs, abs_neg, signDouble_neg]
  split_ifs <;> ring

@[simp] theorem integratedSpeed_mirror (v : Vehicle K) :
    v.mirror.integratedSpeed = -v.integratedSpeed := by
  simp only [integratedSpeed, acceleration, netForce, tractiveForce_mirror,
    opposingForce_mirror, mirror_params, mirror_speedMPerS]
  split_ifs <;> ring

@[simp] theorem newSpeed_mirror (v : Vehicle K) : v.mirror.newSpeed = -v.newSpeed := by
  simp only [newSpeed, integratedSpeed_mirror, mirror_speedMPerS, neg_pos, neg_neg_iff_pos]
  split_ifs with h₁ h₂ <;> simp_all

theorem step50hz_mirror (v : Vehicle K) : v.mirror.step50hz = v.step50hz.mirror := by
  simp only [step50hz, mirror, mk.injEq, true_and]
  refine ⟨newSpeed_mirror v, ?_⟩
  have h : (mirror v).newSpeed = -v.newSpeed := newSpeed_mirror v
  simp only [mirror] at h
  rw [h]
  ring

/-! ## The new speed -/

theorem integratedSpeed_eq (v : Vehicle K) (hm : 0 < v.params.massKg) :
    v.integratedSpeed = v.speedMPerS + v.speedGain (v.tractiveForce - v.opposingForce) := by
  rw [integratedSpeed, acceleration, if_pos hm, netForce, dt_eq, speedGain]
  field_simp

/-- Every way a step can change a speed `0 ≤ v`.  `rolling` is ordinary motion
forwards, `pushedBack` a strong backward force inside the standstill band, and
`reversing` the only step that ends with a negative speed. -/
inductive ForwardStep (v : Vehicle K) : Prop
  | held (slow : v.speedMPerS ≤ minSpeedEpsilon)
      (weak : |v.tractiveForce| ≤ v.params.rollingForceMagnitude)
      (speed : v.newSpeed = v.speedMPerS)
  | rolling (strong : minSpeedEpsilon < v.speedMPerS ∨
        v.params.rollingForceMagnitude < v.tractiveForce)
      (speed : v.newSpeed = max 0 (v.speedMPerS + v.speedGain
        (v.tractiveForce - v.params.dragFactor * v.speedMPerS ^ 2 -
          v.params.rollingForceMagnitude)))
  | pushedBack (slow : v.speedMPerS ≤ minSpeedEpsilon) (forward : 0 < v.speedMPerS)
      (strong : v.tractiveForce < -v.params.rollingForceMagnitude)
      (speed : v.newSpeed = max 0 (v.speedMPerS + v.speedGain
        (v.tractiveForce - v.params.dragFactor * v.speedMPerS ^ 2 +
          v.params.rollingForceMagnitude)))
  | reversing (stopped : v.speedMPerS = 0)
      (strong : v.tractiveForce < -v.params.rollingForceMagnitude)
      (speed : v.newSpeed = v.speedGain (v.tractiveForce + v.params.rollingForceMagnitude))

theorem forwardStep (v : Vehicle K) (hp : v.params.Resistive) (hv : 0 ≤ v.speedMPerS) :
    v.ForwardStep := by
  have hR := hp.rollingForceMagnitude_nonneg
  have hdrag : v.dragForce = v.params.dragFactor * v.speedMPerS ^ 2 := by
    rw [dragForce_eq, absDouble_eq_abs, abs_of_nonneg hv]
    ring
  have hint := v.integratedSpeed_eq hp.mass_pos
  by_cases hfast : minSpeedEpsilon < v.speedMPerS
  · have hpos : 0 < v.speedMPerS := minSpeedEpsilon_pos.trans hfast
    refine .rolling (Or.inl hfast) ?_
    rw [v.newSpeed_of_pos hpos, hint, opposingForce, absDouble_eq_abs, abs_of_nonneg hv,
      if_pos hfast, signDouble_of_pos hpos, hdrag, mul_one, sub_add_eq_sub_sub]
  · have hslow : ¬ minSpeedEpsilon < absDouble v.speedMPerS := by
      rwa [absDouble_eq_abs, abs_of_nonneg hv]
    by_cases hweak : |v.tractiveForce| ≤ v.params.rollingForceMagnitude
    · refine .held (not_lt.mp hfast) hweak ?_
      rw [opposingForce, if_neg hslow, absDouble_eq_abs, if_pos hweak, sub_self, speedGain,
        zero_div, add_zero] at hint
      rcases hv.lt_or_eq with hpos | hzero
      · rw [v.newSpeed_of_pos hpos, hint, max_eq_right hv]
      · rw [v.newSpeed_of_zero hzero.symm, hint]
    · have hopp : v.opposingForce = v.params.dragFactor * v.speedMPerS ^ 2 +
          v.params.rollingForceMagnitude * signDouble v.tractiveForce := by
        rw [opposingForce, if_neg hslow, absDouble_eq_abs, if_neg hweak, hdrag]
      rcases lt_abs.mp (not_le.mp hweak) with hF | hF
      · rw [hopp, signDouble_of_pos (hR.trans_lt hF), mul_one, sub_add_eq_sub_sub] at hint
        refine .rolling (Or.inr hF) ?_
        rcases hv.lt_or_eq with hpos | hzero
        · rw [v.newSpeed_of_pos hpos, hint]
        · rw [v.newSpeed_of_zero hzero.symm, hint, max_eq_right]
          rw [← hzero, speedGain]
          have hm := hp.mass_pos
          have hnet : 0 ≤ v.tractiveForce - v.params.dragFactor * 0 ^ 2 -
              v.params.rollingForceMagnitude := by
            rw [zero_pow two_ne_zero, mul_zero, sub_zero]
            exact sub_nonneg.mpr hF.le
          positivity
      · have hback : v.tractiveForce < -v.params.rollingForceMagnitude := lt_neg_of_lt_neg hF
        rw [hopp, signDouble_of_neg (hback.trans_le (neg_nonpos.mpr hR)), mul_neg, mul_one,
          sub_add_eq_sub_sub, sub_neg_eq_add] at hint
        rcases hv.lt_or_eq with hpos | hzero
        · refine .pushedBack (not_lt.mp hfast) hpos hback ?_
          rw [v.newSpeed_of_pos hpos, hint]
        · refine .reversing hzero.symm hback ?_
          rw [v.newSpeed_of_zero hzero.symm, hint, ← hzero]
          simp

/-- A fact that survives turning the vehicle round need only be shown for motion
forwards. -/
theorem forward_wlog {P : Vehicle K → Prop} (hmirror : ∀ v : Vehicle K, P v.mirror → P v)
    (hforward : ∀ v : Vehicle K, 0 ≤ v.speedMPerS → P v) (v : Vehicle K) : P v := by
  rcases le_total 0 v.speedMPerS with hv | hv
  · exact hforward v hv
  · exact hmirror v (hforward v.mirror (neg_nonneg.mpr hv))

/-! ## Consequences for both directions -/

theorem speedGain_le_speedGain {v : Vehicle K} (hm : 0 < v.params.massKg) {f g : K}
    (h : f ≤ g) : v.speedGain f ≤ v.speedGain g := by
  unfold speedGain
  gcongr

theorem speedGain_nonneg {v : Vehicle K} (hm : 0 < v.params.massKg) {f : K} (h : 0 ≤ f) :
    0 ≤ v.speedGain f := by
  unfold speedGain
  positivity

theorem speedGain_nonpos {v : Vehicle K} (hm : 0 < v.params.massKg) {f : K} (h : f ≤ 0) :
    v.speedGain f ≤ 0 := by
  simpa [speedGain] using speedGain_le_speedGain hm h

/-- One step gains at most the speed the bare tractive force would give. -/
theorem abs_newSpeed_le (v : Vehicle K) (hp : v.params.Resistive) :
    |v.newSpeed| ≤ |v.speedMPerS| + v.speedGain |v.tractiveForce| := by
  induction v using forward_wlog with
  | hmirror v ih => simpa [speedGain] using ih hp
  | hforward v hv =>
      have hm := hp.mass_pos
      have hR := hp.rollingForceMagnitude_nonneg
      have hdrag : 0 ≤ v.params.dragFactor * v.speedMPerS ^ 2 := hp.drag_nonneg _
      have hgain := speedGain_nonneg hm (abs_nonneg v.tractiveForce)
      have hle : ∀ f, f ≤ |v.tractiveForce| →
          |max 0 (v.speedMPerS + v.speedGain f)| ≤
            v.speedMPerS + v.speedGain |v.tractiveForce| := by
        intro f hf
        rw [abs_of_nonneg (le_max_left _ _)]
        exact max_le (by linarith) (by linarith [speedGain_le_speedGain hm hf])
      rw [abs_of_nonneg hv]
      cases v.forwardStep hp hv with
      | held _ _ hnew => rw [hnew, abs_of_nonneg hv]; linarith
      | rolling _ hnew =>
          rw [hnew]
          exact hle _ (by linarith [le_abs_self v.tractiveForce])
      | pushedBack _ _ hback hnew =>
          rw [hnew]
          exact hle _ (by linarith [abs_nonneg v.tractiveForce])
      | reversing hstop hback hnew =>
          rw [hnew, hstop, zero_add, abs_of_neg (hback.trans_le (neg_nonpos.mpr hR)),
            abs_le, ← speedGain_neg]
          constructor <;> apply speedGain_le_speedGain hm <;> linarith

theorem le_newSpeed_of_pulled (v : Vehicle K) (hp : v.params.Resistive) (hv : 0 ≤ v.speedMPerS)
    (hF : v.params.rollingForceMagnitude + v.params.dragFactor * v.speedMPerS ^ 2 ≤
      v.tractiveForce) : v.speedMPerS ≤ v.newSpeed := by
  have hm := hp.mass_pos
  have hR := hp.rollingForceMagnitude_nonneg
  have hdrag : 0 ≤ v.params.dragFactor * v.speedMPerS ^ 2 := hp.drag_nonneg _
  cases v.forwardStep hp hv with
  | held _ _ hnew => exact hnew.ge
  | rolling _ hnew =>
      rw [hnew]
      exact le_max_of_le_right (le_add_of_nonneg_right (speedGain_nonneg hm (by linarith)))
  | pushedBack _ _ hback _ => linarith
  | reversing _ hback _ => linarith

theorem newSpeed_le_of_pushed (v : Vehicle K) (hp : v.params.Resistive) (hv : 0 ≤ v.speedMPerS)
    (hF : v.tractiveForce < -v.params.rollingForceMagnitude) : v.newSpeed ≤ v.speedMPerS := by
  have hm := hp.mass_pos
  have hR := hp.rollingForceMagnitude_nonneg
  have hdrag : 0 ≤ v.params.dragFactor * v.speedMPerS ^ 2 := hp.drag_nonneg _
  cases v.forwardStep hp hv with
  | held _ _ hnew => exact hnew.le
  | rolling _ hnew =>
      rw [hnew]
      exact max_le hv (add_le_of_nonpos_right (speedGain_nonpos hm (by linarith)))
  | pushedBack _ _ _ hnew =>
      rw [hnew]
      exact max_le hv (add_le_of_nonpos_right (speedGain_nonpos hm (by linarith)))
  | reversing hstop _ hnew =>
      rw [hnew, hstop]
      exact speedGain_nonpos hm (by linarith)

theorem abs_newSpeed_le_of_coasting (v : Vehicle K) (hp : v.params.Resistive)
    (hF : v.tractiveForce = 0) : |v.newSpeed| ≤ |v.speedMPerS| := by
  simpa [hF, speedGain] using v.abs_newSpeed_le hp

theorem newSpeed_nonpos_of_neg (v : Vehicle K) (hv : v.speedMPerS < 0) : v.newSpeed ≤ 0 := by
  have h := v.mirror.newSpeed_nonneg_of_pos (neg_pos.mpr hv)
  rwa [newSpeed_mirror, neg_nonneg] at h

end Vehicle

end DriveSim
