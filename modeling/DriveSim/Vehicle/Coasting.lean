import DriveSim.Vehicle.Step
import Mathlib.Algebra.Order.Archimedean.Basic

/-!
# Coasting

With no torque commanded, every step outside the standstill band takes away at least
the speed the rolling resistance removes, and inside the band the speed stays put.
-/

namespace DriveSim

/-- The speed the rolling resistance removes in one step. -/
def VehicleParams.coastingLoss {K : Type*} [Field K] (p : VehicleParams K) : K :=
  gravityMPerS2 * p.rollingResistanceCoefficient * dt

namespace Vehicle

variable {K : Type*} [Field K] [LinearOrder K]

theorem tractiveForce_of_no_torque {v : Vehicle K} (h : v.commandedTorqueNm = 0) :
    v.tractiveForce = 0 := by
  simp [tractiveForce, wheelTorque, motorTorque, h]

@[simp] theorem iterate_step50hz_params (v : Vehicle K) (n : ℕ) :
    (step50hz^[n] v).params = v.params := by
  induction n with
  | zero => rfl
  | succ n ih => rw [Function.iterate_succ_apply', step50hz_params, ih]

@[simp] theorem iterate_step50hz_commandedTorqueNm (v : Vehicle K) (n : ℕ) :
    (step50hz^[n] v).commandedTorqueNm = v.commandedTorqueNm := by
  induction n with
  | zero => rfl
  | succ n ih => rw [Function.iterate_succ_apply', step50hz_commandedTorqueNm, ih]

theorem coasting_tractiveForce {v : Vehicle K} (h : v.commandedTorqueNm = 0) (n : ℕ) :
    (step50hz^[n] v).tractiveForce = 0 :=
  tractiveForce_of_no_torque (by simpa using h)

variable [IsStrictOrderedRing K]

/-- Outside the standstill band a coasting step loses what the rolling resistance removes. -/
theorem coasting_speedGain_le {v : Vehicle K} (hp : v.params.Resistive)
    (hF : v.tractiveForce = 0) :
    v.speedGain (v.tractiveForce - v.params.dragFactor * v.speedMPerS ^ 2 -
      v.params.rollingForceMagnitude) ≤ -v.params.coastingLoss := by
  have hm := hp.mass_pos
  have hdrag := hp.drag_nonneg v.speedMPerS
  have hloss : v.speedGain (-v.params.rollingForceMagnitude) = -v.params.coastingLoss := by
    rw [speedGain, VehicleParams.rollingForceMagnitude, VehicleParams.coastingLoss, dt_eq]
    field_simp
  rw [← hloss]
  exact speedGain_le_speedGain hm (by linarith)

/-- One coasting step: held inside the standstill band, slowed outside it. -/
theorem coasting_step (v : Vehicle K) (hp : v.params.Resistive)
    (hF : v.tractiveForce = 0) :
    |v.newSpeed| ≤ max minSpeedEpsilon (|v.speedMPerS| - v.params.coastingLoss) := by
  induction v using forward_wlog with
  | hmirror v ih => simpa using ih hp (by simp [hF])
  | hforward v hv =>
      have hR := hp.rollingForceMagnitude_nonneg
      cases v.forwardStep hp hv with
      | held hslow _ hnew =>
          rw [hnew, abs_of_nonneg hv]
          exact hslow.trans (le_max_left _ _)
      | rolling _ hnew =>
          have hgain := coasting_speedGain_le hp hF
          rw [hnew, abs_of_nonneg (le_max_left _ _), abs_of_nonneg hv]
          exact max_le_max minSpeedEpsilon_pos.le (by linarith)
      | pushedBack _ _ hback _ => linarith
      | reversing _ hback _ => linarith

theorem coasting_step_nonneg {v : Vehicle K} (hp : v.params.Resistive)
    (hF : v.tractiveForce = 0) (hv : 0 ≤ v.speedMPerS) : 0 ≤ v.newSpeed := by
  rcases hv.lt_or_eq with hpos | hzero
  · exact v.newSpeed_nonneg_of_pos hpos
  · have h := v.abs_newSpeed_le_of_coasting hp hF
    rw [← hzero, abs_zero] at h
    exact (abs_nonpos_iff.mp h).ge

theorem coasting_antitone {v : Vehicle K} (hp : v.params.Resistive)
    (h : v.commandedTorqueNm = 0) (n : ℕ) :
    |(step50hz^[n + 1] v).speedMPerS| ≤ |(step50hz^[n] v).speedMPerS| := by
  rw [Function.iterate_succ_apply', step50hz_speedMPerS]
  exact abs_newSpeed_le_of_coasting _ (by simpa using hp) (coasting_tractiveForce h n)

theorem coasting_nonneg {v : Vehicle K} (hp : v.params.Resistive)
    (h : v.commandedTorqueNm = 0) (hv : 0 ≤ v.speedMPerS) (n : ℕ) :
    0 ≤ (step50hz^[n] v).speedMPerS := by
  induction n with
  | zero => exact hv
  | succ n ih =>
      rw [Function.iterate_succ_apply', step50hz_speedMPerS]
      exact coasting_step_nonneg (by simpa using hp) (coasting_tractiveForce h n) ih

theorem iterate_step50hz_mirror (v : Vehicle K) (n : ℕ) :
    step50hz^[n] v.mirror = (step50hz^[n] v).mirror := by
  induction n with
  | zero => rfl
  | succ n ih =>
      rw [Function.iterate_succ_apply', Function.iterate_succ_apply', ih, step50hz_mirror]

theorem coasting_nonpos {v : Vehicle K} (hp : v.params.Resistive)
    (h : v.commandedTorqueNm = 0) (hv : v.speedMPerS ≤ 0) (n : ℕ) :
    (step50hz^[n] v).speedMPerS ≤ 0 := by
  have hmirror := coasting_nonneg (v := v.mirror) hp (by simp [h])
    (neg_nonneg.mpr hv) n
  rwa [iterate_step50hz_mirror, mirror_speedMPerS, neg_nonneg] at hmirror

theorem coasting_speed_le {v : Vehicle K} (hp : v.params.Resistive)
    (h : v.commandedTorqueNm = 0) (n : ℕ) :
    |(step50hz^[n] v).speedMPerS| ≤
      max minSpeedEpsilon (|v.speedMPerS| - n * v.params.coastingLoss) := by
  induction n with
  | zero => simp
  | succ n ih =>
      have hstep := (step50hz^[n] v).coasting_step (by simpa using hp)
        (coasting_tractiveForce h n)
      have hloss : 0 ≤ v.params.coastingLoss := by
        exact mul_nonneg (mul_nonneg gravityMPerS2_pos.le hp.rolling_nonneg) dt_pos.le
      rw [iterate_step50hz_params] at hstep
      rw [Function.iterate_succ_apply', step50hz_speedMPerS]
      push_cast
      rcases le_max_iff.mp ih with hin | hout
      · refine hstep.trans (max_le (le_max_left _ _) (le_max_of_le_left ?_))
        linarith
      · exact hstep.trans (max_le_max le_rfl (by linarith))

/-- Coasting slows the vehicle down, never turns it round, and ends in the standstill
band after at most `50 * |v| / (9.81 * C)` steps. -/
theorem coasting_stops (v : Vehicle K) (hmass : 0 < v.params.massKg)
    (hrolling : 0 < v.params.rollingResistanceCoefficient)
    (harea : 0 ≤ v.params.frontalAreaM2) (htorque : v.commandedTorqueNm = 0) :
    (∀ n, |(step50hz^[n + 1] v).speedMPerS| ≤ |(step50hz^[n] v).speedMPerS|) ∧
    (∀ n, (0 ≤ v.speedMPerS → 0 ≤ (step50hz^[n] v).speedMPerS) ∧
      (v.speedMPerS ≤ 0 → (step50hz^[n] v).speedMPerS ≤ 0)) ∧
    ∀ n : ℕ, 50 * |v.speedMPerS| / (9.81 * v.params.rollingResistanceCoefficient) ≤ n →
      |(step50hz^[n] v).speedMPerS| ≤ 1e-6 := by
  have hp : v.params.Resistive := ⟨hmass, hrolling.le, harea⟩
  refine ⟨coasting_antitone hp htorque, fun n => ⟨fun hv => coasting_nonneg hp htorque hv n,
    fun hv => coasting_nonpos hp htorque hv n⟩, fun n hn => ?_⟩
  have hlost : |v.speedMPerS| - n * v.params.coastingLoss ≤ 0 := by
    rw [div_le_iff₀ (by positivity)] at hn
    rw [VehicleParams.coastingLoss, gravityMPerS2, dt_eq]
    linarith
  exact (coasting_speed_le hp htorque n).trans
    (max_le le_rfl (hlost.trans minSpeedEpsilon_pos.le))

def rollingBack : Vehicle ℚ := { init mainParams with speedMPerS := -0.1 }

theorem coasting_stops_rollingBack :
    (∀ n, |(step50hz^[n + 1] rollingBack).speedMPerS| ≤
      |(step50hz^[n] rollingBack).speedMPerS|) ∧
    |(step50hz^[34] rollingBack).speedMPerS| ≤ 1e-6 :=
  have h := coasting_stops rollingBack (by decide +kernel) (by decide +kernel)
    (by decide +kernel) rfl
  ⟨h.1, h.2.2 34 (by decide +kernel)⟩

end Vehicle

end DriveSim
