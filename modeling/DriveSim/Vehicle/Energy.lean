import DriveSim.Vehicle.Run
import Mathlib.Algebra.BigOperators.Group.List.Basic

/-!
# Kinetic energy

The resistances only take energy out: a step raises the kinetic energy by no more
than the work `F * dx` of the tractive force over the distance of that step.
-/

namespace DriveSim

namespace Vehicle

section Definitions

variable {K : Type*} [Field K] [LinearOrder K]

def kineticEnergy (v : Vehicle K) : K := v.params.massKg * v.speedMPerS ^ 2 / 2

def stepDistance (v : Vehicle K) : K := v.step50hz.distanceM - v.distanceM

/-- The work of the tractive force in one step, if it drives the vehicle at all. -/
def stepWork (v : Vehicle K) : K := max 0 (v.tractiveForce * v.stepDistance)

theorem stepWork_nonneg (v : Vehicle K) : 0 ≤ v.stepWork := le_max_left _ _

end Definitions

variable {K : Type*} [Field K] [LinearOrder K] [IsStrictOrderedRing K]

theorem stepDistance_eq (v : Vehicle K) :
    v.stepDistance = (v.speedMPerS + v.newSpeed) / 100 := by
  rw [stepDistance, step50hz_distanceM, dt_eq]
  ring

@[simp] theorem stepDistance_mirror (v : Vehicle K) :
    v.mirror.stepDistance = -v.stepDistance := by
  simp only [stepDistance_eq, newSpeed_mirror, mirror_speedMPerS]
  ring

@[simp] theorem stepWork_mirror (v : Vehicle K) : v.mirror.stepWork = v.stepWork := by
  simp [stepWork]

/-- A step that ends no faster than it began needs no work at all. -/
theorem kineticEnergy_step_of_slowing {v : Vehicle K} (hp : v.params.Resistive)
    (hv : |v.newSpeed| ≤ |v.speedMPerS|) :
    v.step50hz.kineticEnergy ≤ v.kineticEnergy + v.stepWork := by
  have hm := hp.mass_pos
  have hsq : v.newSpeed ^ 2 ≤ v.speedMPerS ^ 2 := sq_le_sq.mpr hv
  have hle : v.step50hz.kineticEnergy ≤ v.kineticEnergy := by
    simp only [kineticEnergy, step50hz_speedMPerS, step50hz_params]
    gcongr
  linarith [v.stepWork_nonneg]

theorem kineticEnergy_step_of_integrated {v : Vehicle K} (hp : v.params.Resistive) {f : K}
    (hnew : v.newSpeed = v.speedMPerS + v.speedGain f)
    (hf : f * v.stepDistance ≤ v.tractiveForce * v.stepDistance) :
    v.step50hz.kineticEnergy ≤ v.kineticEnergy + v.stepWork := by
  have hm := hp.mass_pos
  have hwork : v.step50hz.kineticEnergy = v.kineticEnergy + f * v.stepDistance := by
    simp only [kineticEnergy, step50hz_speedMPerS, step50hz_params, stepDistance_eq, hnew,
      speedGain]
    field_simp
    ring
  rw [hwork]
  exact add_le_add le_rfl (hf.trans (le_max_right _ _))

theorem kineticEnergy_step_le (v : Vehicle K) (hp : v.params.Resistive) :
    v.step50hz.kineticEnergy ≤ v.kineticEnergy + v.stepWork := by
  induction v using forward_wlog with
  | hmirror v ih =>
      have h := ih hp
      rw [step50hz_mirror, stepWork_mirror] at h
      simpa [kineticEnergy] using h
  | hforward v hv =>
      have hm := hp.mass_pos
      have hR := hp.rollingForceMagnitude_nonneg
      have hdrag : 0 ≤ v.params.dragFactor * v.speedMPerS ^ 2 := hp.drag_nonneg _
      cases v.forwardStep hp hv with
      | held _ _ hnew => exact kineticEnergy_step_of_slowing hp (by rw [hnew])
      | rolling _ hnew =>
          rcases le_total (v.speedMPerS + v.speedGain (v.tractiveForce -
            v.params.dragFactor * v.speedMPerS ^ 2 - v.params.rollingForceMagnitude)) 0
            with hcut | hfree
          · rw [max_eq_left hcut] at hnew
            exact kineticEnergy_step_of_slowing hp (by rw [hnew, abs_zero]; exact abs_nonneg _)
          · rw [max_eq_right hfree] at hnew
            have hdist : 0 ≤ v.stepDistance := by
              rw [stepDistance_eq, hnew]
              linarith
            exact kineticEnergy_step_of_integrated hp hnew
              (mul_le_mul_of_nonneg_right (by linarith) hdist)
      | pushedBack _ _ hback hnew =>
          have hslower : v.newSpeed ≤ v.speedMPerS := by
            rw [hnew]
            refine max_le hv ?_
            have hneg := speedGain_le_speedGain hm (f := v.tractiveForce -
              v.params.dragFactor * v.speedMPerS ^ 2 + v.params.rollingForceMagnitude)
              (g := 0) (by linarith)
            rw [speedGain, speedGain, zero_div] at hneg
            rw [speedGain]
            linarith
          have hnonneg : 0 ≤ v.newSpeed := hnew ▸ le_max_left _ _
          exact kineticEnergy_step_of_slowing hp (abs_le_abs_of_nonneg hnonneg hslower)
      | reversing hstop hback hnew =>
          have hdist : v.stepDistance ≤ 0 := by
            rw [stepDistance_eq, hstop, hnew, zero_add]
            have hgain := speedGain_nonneg hm
              (f := -(v.tractiveForce + v.params.rollingForceMagnitude)) (by linarith)
            rw [speedGain_neg] at hgain
            linarith
          refine kineticEnergy_step_of_integrated hp (by rw [hnew, hstop, zero_add]) ?_
          exact mul_le_mul_of_nonpos_right (by linarith) hdist

theorem kineticEnergy_run_le (v : Vehicle K) (hp : v.params.Resistive)
    (ops : List (VehicleOp K)) :
    (v.run ops).kineticEnergy ≤ v.kineticEnergy + ((v.stepsOf ops).map stepWork).sum := by
  induction ops generalizing v with
  | nil => simp
  | cons op ops ih =>
      cases op with
      | setTorque t => exact ih (v.setTorque t) hp
      | step50hz =>
          have hrest := ih v.step50hz hp
          have hstep := v.kineticEnergy_step_le hp
          simp only [run_step50hz, stepsOf_step50hz, List.map_cons, List.sum_cons]
          linarith

/-- The drive creates no energy, in one step from any state and along any run. -/
theorem energy_from_traction_only (p : VehicleParams K) (hmass : 0 < p.massKg)
    (hrolling : 0 ≤ p.rollingResistanceCoefficient) (harea : 0 ≤ p.frontalAreaM2) :
    (∀ v : Vehicle K, v.params = p →
      v.step50hz.kineticEnergy - v.kineticEnergy ≤
        max 0 (v.tractiveForce * (v.step50hz.distanceM - v.distanceM))) ∧
    ∀ ops : List (VehicleOp K), ((init p).run ops).kineticEnergy ≤
      (((init p).stepsOf ops).map fun v =>
        max 0 (v.tractiveForce * (v.step50hz.distanceM - v.distanceM))).sum := by
  have hp : p.Resistive := ⟨hmass, hrolling, harea⟩
  constructor
  · rintro v rfl
    exact sub_le_iff_le_add'.mpr (v.kineticEnergy_step_le hp)
  · intro ops
    have h := (init p).kineticEnergy_run_le hp ops
    rwa [show (init p).kineticEnergy = 0 by simp [kineticEnergy], zero_add] at h

theorem energy_from_traction_only_main :
    ((init (mainParams : VehicleParams ℚ)).run [.setTorque 120, .step50hz]).kineticEnergy ≤
      (((init (mainParams : VehicleParams ℚ)).stepsOf [.setTorque 120, .step50hz]).map fun v =>
        max 0 (v.tractiveForce * (v.step50hz.distanceM - v.distanceM))).sum :=
  (energy_from_traction_only mainParams (by norm_num [mainParams]) (by norm_num [mainParams])
    (by norm_num [mainParams])).2 _

end Vehicle

end DriveSim
