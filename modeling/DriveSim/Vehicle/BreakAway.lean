import DriveSim.Vehicle.SpeedLimit
import DriveSim.Vehicle.Standstill

/-!
# Breaking away from standstill

A vehicle at rest stays at rest until a step at a torque that the rolling resistance
cannot hold, and that step ends with the speed of the surplus force.
-/

namespace DriveSim

namespace Vehicle

variable {K : Type*} [Field K] [LinearOrder K]

/-- The commanded torque is more than the rolling resistance can hold. -/
def BreaksAway (v : Vehicle K) : Prop :=
  v.params.rollingForceMagnitude <
    |v.commandedTorqueNm| * v.params.gearRatio / v.params.wheelRadiusM

instance (v : Vehicle K) : Decidable v.BreaksAway :=
  inferInstanceAs (Decidable (v.params.rollingForceMagnitude <
    |v.commandedTorqueNm| * v.params.gearRatio / v.params.wheelRadiusM))

variable [IsStrictOrderedRing K]

theorem abs_traction {p : VehicleParams K} (hradius : 0 < p.wheelRadiusM)
    (hgear : 0 < p.gearRatio) (t : K) :
    |p.traction t| = |t| * p.gearRatio / p.wheelRadiusM := by
  rw [VehicleParams.traction, abs_div, abs_mul, abs_of_pos hradius, abs_of_pos hgear]

/-- Cut off or not, a torque that does not break away can be held. -/
theorem holdable_of_not_breaksAway {v : Vehicle K} (hradius : 0 < v.params.wheelRadiusM)
    (hgear : 0 < v.params.gearRatio) (hR : 0 ≤ v.params.rollingForceMagnitude)
    (h : ¬ v.BreaksAway) : v.Holdable := by
  show |v.tractiveForce| ≤ v.params.rollingForceMagnitude
  rcases lt_or_ge |v.motorAngularSpeed| v.params.motorMaxSpeedRadPerSec with hbelow | hover
  · rw [tractiveForce_of_belowLimit hradius hbelow, abs_traction hradius hgear]
    exact not_lt.mp h
  · rw [tractiveForce_of_overLimit hover, abs_zero]
    exact hR

theorem newSpeed_of_breaksAway {v : Vehicle K} (hmass : 0 < v.params.massKg)
    (hradius : 0 < v.params.wheelRadiusM) (hgear : 0 < v.params.gearRatio)
    (hmaxSpeed : 0 < v.params.motorMaxSpeedRadPerSec) (hstop : v.speedMPerS = 0)
    (h : v.BreaksAway) :
    v.newSpeed = signDouble v.commandedTorqueNm *
      ((|v.commandedTorqueNm| * v.params.gearRatio / v.params.wheelRadiusM -
        v.params.rollingForceMagnitude) / (50 * v.params.massKg)) := by
  have hbelow : |v.motorAngularSpeed| < v.params.motorMaxSpeedRadPerSec := by
    simpa [motorAngularSpeed, wheelAngularSpeed, hstop] using hmaxSpeed
  have hF := tractiveForce_of_belowLimit hradius hbelow
  have habs := abs_traction hradius hgear v.commandedTorqueNm
  have hsign : signDouble v.tractiveForce = signDouble v.commandedTorqueNm := by
    rw [hF, VehicleParams.traction, mul_div_assoc, mul_comm,
      signDouble_mul (div_pos hgear hradius)]
  have hopp : v.opposingForce =
      v.params.rollingForceMagnitude * signDouble v.commandedTorqueNm := by
    have hstrong : ¬ |v.tractiveForce| ≤ v.params.rollingForceMagnitude := by
      rw [hF, habs]
      exact h.not_ge
    rw [opposingForce, dragForce_eq, hstop, absDouble_eq_abs, absDouble_eq_abs, abs_zero,
      if_neg minSpeedEpsilon_pos.not_gt, if_neg hstrong, hsign, mul_zero, zero_add]
  rw [v.newSpeed_of_zero hstop, v.integratedSpeed_eq hmass, hstop, zero_add, hopp, speedGain,
    ← habs, ← hF, ← hsign]
  calc (v.tractiveForce - v.params.rollingForceMagnitude * signDouble v.tractiveForce) /
        (50 * v.params.massKg)
      = (signDouble v.tractiveForce * |v.tractiveForce| -
          v.params.rollingForceMagnitude * signDouble v.tractiveForce) /
          (50 * v.params.massKg) := by rw [signDouble_mul_abs]
    _ = signDouble v.tractiveForce *
          ((|v.tractiveForce| - v.params.rollingForceMagnitude) / (50 * v.params.massKg)) := by
        ring

section Run

variable {p : VehicleParams K} (hradius : 0 < p.wheelRadiusM) (hgear : 0 < p.gearRatio)
  (hR : 0 ≤ p.rollingForceMagnitude)
include hradius hgear hR

theorem heldRun_of_not_breaksAway {ops : List (VehicleOp K)}
    (h : ∀ u ∈ (init p).stepsOf ops, ¬ u.BreaksAway) : (init p).HeldRun ops := by
  intro u hu
  have hparams : u.params = p := params_of_mem_stepsOf hu
  exact holdable_of_not_breaksAway (by rwa [hparams]) (by rwa [hparams]) (by rwa [hparams])
    (h u hu)

theorem at_rest_of_not_breaksAway {ops : List (VehicleOp K)}
    (h : ∀ u ∈ (init p).stepsOf ops, ¬ u.BreaksAway) :
    ((init p).run ops).speedMPerS = 0 ∧ ((init p).run ops).distanceM = 0 :=
  stopped_run (v := init p) rfl (heldRun_of_not_breaksAway hradius hgear hR h)

theorem newSpeed_of_first_breaksAway (hmass : 0 < p.massKg)
    (hmaxSpeed : 0 < p.motorMaxSpeedRadPerSec) {before : List (VehicleOp K)}
    (hheld : ∀ u ∈ (init p).stepsOf before, ¬ u.BreaksAway)
    (hbreak : ((init p).run before).BreaksAway) :
    ((init p).run before).step50hz.speedMPerS =
      signDouble ((init p).run before).commandedTorqueNm *
        ((|((init p).run before).commandedTorqueNm| * p.gearRatio / p.wheelRadiusM -
          p.rollingForceMagnitude) / (50 * p.massKg)) := by
  have hparams : ((init p).run before).params = p := run_params _ _
  have hstop := (at_rest_of_not_breaksAway hradius hgear hR hheld).1
  have hspeed := newSpeed_of_breaksAway (by rwa [hparams]) (by rwa [hparams])
    (by rwa [hparams]) (by rwa [hparams]) hstop hbreak
  rwa [hparams] at hspeed

theorem moves_of_first_breaksAway (hmass : 0 < p.massKg)
    (hmaxSpeed : 0 < p.motorMaxSpeedRadPerSec) {before : List (VehicleOp K)}
    (hheld : ∀ u ∈ (init p).stepsOf before, ¬ u.BreaksAway)
    (hbreak : ((init p).run before).BreaksAway) :
    ((init p).run before).step50hz.speedMPerS ≠ 0 := by
  rw [newSpeed_of_first_breaksAway hradius hgear hR hmass hmaxSpeed hheld hbreak]
  have hsurplus : p.rollingForceMagnitude <
      |((init p).run before).commandedTorqueNm| * p.gearRatio / p.wheelRadiusM := by
    simpa [BreaksAway] using hbreak
  apply mul_ne_zero
  · intro hsign
    have htorque := signDouble_mul_abs ((init p).run before).commandedTorqueNm
    rw [hsign, zero_mul] at htorque
    rw [← htorque, abs_zero, zero_mul, zero_div] at hsurplus
    exact hsurplus.not_ge hR
  · have hm : 0 < 50 * p.massKg := by positivity
    exact (div_pos (sub_pos.mpr hsurplus) hm).ne'

end Run

/-- The exact break-away law of every run from standstill. -/
theorem break_away_law (p : VehicleParams K) (hmass : 0 < p.massKg)
    (hradius : 0 < p.wheelRadiusM) (hgear : 0 < p.gearRatio)
    (hmaxSpeed : 0 < p.motorMaxSpeedRadPerSec) (hrolling : 0 ≤ p.rollingResistanceCoefficient)
    (ops : List (VehicleOp K)) :
    ((∀ u ∈ (init p).stepsOf ops, ¬ u.BreaksAway) →
      ((init p).run ops).speedMPerS = 0 ∧ ((init p).run ops).distanceM = 0) ∧
    (∀ before after, ops = before ++ .step50hz :: after →
      (∀ u ∈ (init p).stepsOf before, ¬ u.BreaksAway) → ((init p).run before).BreaksAway →
      ((init p).run before).step50hz.speedMPerS =
        signDouble ((init p).run before).commandedTorqueNm *
          ((|((init p).run before).commandedTorqueNm| * p.gearRatio / p.wheelRadiusM -
            p.rollingForceMagnitude) / (50 * p.massKg))) ∧
    ((∃ n, ((init p).run (ops.take n)).speedMPerS ≠ 0) ↔
      ∃ u ∈ (init p).stepsOf ops, u.BreaksAway) := by
  have hR : 0 ≤ p.rollingForceMagnitude :=
    mul_nonneg (mul_nonneg hrolling hmass.le) gravityMPerS2_pos.le
  refine ⟨at_rest_of_not_breaksAway hradius hgear hR, fun before _ _ =>
    newSpeed_of_first_breaksAway hradius hgear hR hmass hmaxSpeed, fun hmoved => ?_,
    fun hbreak => ?_⟩
  · by_contra hnone
    push Not at hnone
    obtain ⟨n, hn⟩ := hmoved
    have hheld := heldRun_of_not_breaksAway hradius hgear hR hnone
    rw [← List.take_append_drop n ops] at hheld
    exact hn (stopped_run (v := init p) rfl hheld.left).1
  · obtain ⟨before, after, rfl, hheld, hfirst⟩ := exists_first_step hbreak
    refine ⟨before.length + 1, ?_⟩
    have htake : (before ++ .step50hz :: after).take (before.length + 1) =
        before ++ [.step50hz] := by
      rw [List.append_cons]
      exact List.take_left' (by simp)
    rw [htake, run_append]
    exact moves_of_first_breaksAway hradius hgear hR hmass hmaxSpeed hheld hfirst

/-- Reverse, first at exactly the rolling force of 196.2 N and then 50 N above it. -/
def breakAwayOps : List (VehicleOp ℚ) :=
  [.setTorque (-196.2), .step50hz, .step50hz, .setTorque (-246.2), .step50hz]

theorem break_away_law_creep :
    ((init creepParams).run (breakAwayOps.take 3)).speedMPerS = 0 ∧
    ((init creepParams).run (breakAwayOps.take 4)).step50hz.speedMPerS =
      -1 * ((246.2 * 1 / 1 - 196.2) / (50 * 1000)) ∧
    ∃ n, ((init creepParams).run (breakAwayOps.take n)).speedMPerS ≠ 0 := by
  have hheld := break_away_law creepParams (by decide) (by decide) (by decide) (by decide)
    (by decide +kernel) (breakAwayOps.take 3)
  have hbreak := break_away_law creepParams (by decide) (by decide) (by decide) (by decide)
    (by decide +kernel) breakAwayOps
  refine ⟨(hheld.1 (by decide +kernel)).1, ?_, hbreak.2.2.mpr (by decide +kernel)⟩
  rw [hbreak.2.1 (breakAwayOps.take 4) [] rfl (by decide +kernel) (by decide +kernel)]
  decide +kernel

end Vehicle

end DriveSim
