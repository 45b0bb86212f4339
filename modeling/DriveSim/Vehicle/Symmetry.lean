import DriveSim.Vehicle.Run

/-!
# Symmetries of the drive

Two transformations of a vehicle commute with every operation and therefore with every
run: turning it round, and changing its units of mass and of wheel size.
-/

namespace DriveSim

section Clamp

variable {K : Type*} [Field K] [LinearOrder K] [IsStrictOrderedRing K]

theorem clamp_neg {bound : K} (hbound : 0 ≤ bound) (x : K) :
    clamp (-x) (-bound) bound = -clamp x (-bound) bound := by
  unfold clamp
  split_ifs <;> linarith

theorem clamp_mul {l : K} (hl : 0 < l) (x lo hi : K) :
    clamp (l * x) (l * lo) (l * hi) = l * clamp x lo hi := by
  simp only [clamp, mul_lt_mul_iff_right₀ hl]
  split_ifs <;> rfl

end Clamp

section Scaling

variable {K : Type*} [Field K]

namespace VehicleOp

def mirror : VehicleOp K → VehicleOp K
  | .setTorque t => .setTorque (-t)
  | .step50hz => .step50hz

def scale (l : K) : VehicleOp K → VehicleOp K
  | .setTorque t => .setTorque (l * t)
  | .step50hz => .step50hz

end VehicleOp

/-- A similar vehicle: `l` times the mass, area and torque, `m` times the gear ratio and
wheel radius. -/
def VehicleParams.scale (l m : K) (p : VehicleParams K) : VehicleParams K where
  massKg := l * p.massKg
  frontalAreaM2 := l * p.frontalAreaM2
  rollingResistanceCoefficient := p.rollingResistanceCoefficient
  motorMaxSpeedRadPerSec := p.motorMaxSpeedRadPerSec
  motorMaxTorqueNm := l * p.motorMaxTorqueNm
  gearRatio := m * p.gearRatio
  wheelRadiusM := m * p.wheelRadiusM

def Vehicle.scale (l m : K) (v : Vehicle K) : Vehicle K where
  params := v.params.scale l m
  commandedTorqueNm := l * v.commandedTorqueNm
  speedMPerS := v.speedMPerS
  distanceM := v.distanceM

end Scaling

namespace Vehicle

variable {K : Type*} [Field K] [LinearOrder K] [IsStrictOrderedRing K]

/-! ## Turning round -/

theorem apply_mirror {v : Vehicle K} (hmaxTorque : 0 ≤ v.params.motorMaxTorqueNm)
    (op : VehicleOp K) : v.mirror.apply op.mirror = (v.apply op).mirror := by
  cases op with
  | setTorque t => simp [apply, VehicleOp.mirror, setTorque, mirror, clamp_neg hmaxTorque]
  | step50hz => exact step50hz_mirror v

omit [LinearOrder K] [IsStrictOrderedRing K] in
theorem init_mirror (p : VehicleParams K) : (init p).mirror = init p := by
  simp [init, mirror]

/-- Forward and backward driving are mirror images, operation by operation. -/
theorem mirrored_run (p : VehicleParams K) (hmaxTorque : 0 ≤ p.motorMaxTorqueNm)
    (ops : List (VehicleOp K)) (n : ℕ) :
    ((init p).run ((ops.map VehicleOp.mirror).take n)).commandedTorqueNm =
        -((init p).run (ops.take n)).commandedTorqueNm ∧
      ((init p).run ((ops.map VehicleOp.mirror).take n)).speedMPerS =
        -((init p).run (ops.take n)).speedMPerS ∧
      ((init p).run ((ops.map VehicleOp.mirror).take n)).distanceM =
        -((init p).run (ops.take n)).distanceM := by
  have hrun := run_map (I := fun v => 0 ≤ v.params.motorMaxTorqueNm) mirror VehicleOp.mirror
    (fun v op h => by cases op <;> exact h) (fun v op h => apply_mirror h op)
    (v := init p) hmaxTorque (ops.take n)
  rw [init_mirror, List.map_take] at hrun
  rw [hrun]
  exact ⟨rfl, rfl, rfl⟩

def shortDrive : List (VehicleOp ℚ) :=
  [.setTorque 100, .step50hz, .step50hz, .setTorque 0, .step50hz]

theorem mirrored_run_main :
    ((init mainParams).run ((shortDrive.map VehicleOp.mirror).take 5)).commandedTorqueNm =
        -((init mainParams).run (shortDrive.take 5)).commandedTorqueNm ∧
      ((init mainParams).run ((shortDrive.map VehicleOp.mirror).take 5)).speedMPerS =
        -((init mainParams).run (shortDrive.take 5)).speedMPerS ∧
      ((init mainParams).run ((shortDrive.map VehicleOp.mirror).take 5)).distanceM =
        -((init mainParams).run (shortDrive.take 5)).distanceM :=
  mirrored_run mainParams (by decide +kernel) shortDrive 5

/-! ## Similar vehicles -/

section Similar

variable {l m : K} (v : Vehicle K)

theorem motorTorque_scale (hm : 0 < m) : (v.scale l m).motorTorque = l * v.motorTorque := by
  have hspeed : (v.scale l m).motorAngularSpeed = v.motorAngularSpeed := by
    simp only [motorAngularSpeed, wheelAngularSpeed, scale, VehicleParams.scale,
      mul_pos_iff_of_pos_left hm]
    split_ifs
    · field_simp
    · rw [zero_mul, zero_mul]
  rw [motorTorque, hspeed, motorTorque, mul_ite, mul_zero]
  rfl

theorem tractiveForce_scale (hm : 0 < m) :
    (v.scale l m).tractiveForce = l * v.tractiveForce := by
  simp only [tractiveForce, wheelTorque, v.motorTorque_scale hm]
  simp only [scale, VehicleParams.scale, mul_pos_iff_of_pos_left hm, mul_ite, mul_zero]
  congr 1
  field_simp

omit [LinearOrder K] [IsStrictOrderedRing K] in
theorem rollingForceMagnitude_scale (p : VehicleParams K) :
    (p.scale l m).rollingForceMagnitude = l * p.rollingForceMagnitude := by
  rw [VehicleParams.rollingForceMagnitude_eq, VehicleParams.rollingForceMagnitude_eq,
    VehicleParams.scale]
  ring

omit [IsStrictOrderedRing K] in
theorem dragForce_scale : (v.scale l m).dragForce = l * v.dragForce := by
  simp only [dragForce, scale, VehicleParams.scale]
  ring

theorem opposingForce_scale (hl : 0 < l) (hm : 0 < m) :
    (v.scale l m).opposingForce = l * v.opposingForce := by
  have hparams : (v.scale l m).params = v.params.scale l m := rfl
  have hspeed : (v.scale l m).speedMPerS = v.speedMPerS := rfl
  simp only [opposingForce, hparams, hspeed, v.tractiveForce_scale hm,
    rollingForceMagnitude_scale, dragForce_scale, signDouble_mul hl, absDouble_eq_abs, abs_mul,
    abs_of_pos hl, mul_le_mul_iff_right₀ hl, mul_ite]
  congr 1
  · ring
  · congr 1
    ring

theorem acceleration_scale (hl : 0 < l) (hm : 0 < m) :
    (v.scale l m).acceleration = v.acceleration := by
  have hmass : (v.scale l m).params.massKg = l * v.params.massKg := rfl
  rw [acceleration, netForce, v.tractiveForce_scale hm, v.opposingForce_scale hl hm, hmass,
    ← mul_sub, mul_div_mul_left _ _ hl.ne', acceleration, netForce]
  simp only [mul_pos_iff_of_pos_left hl]

theorem newSpeed_scale (hl : 0 < l) (hm : 0 < m) :
    (v.scale l m).newSpeed = v.newSpeed := by
  have hint : (v.scale l m).integratedSpeed = v.integratedSpeed := by
    rw [integratedSpeed, v.acceleration_scale hl hm]
    rfl
  rw [newSpeed, hint]
  rfl

theorem apply_scale (hl : 0 < l) (hm : 0 < m) (op : VehicleOp K) :
    (v.scale l m).apply (op.scale l) = (v.apply op).scale l m := by
  cases op with
  | setTorque t =>
      simp only [apply, VehicleOp.scale, setTorque, scale, VehicleParams.scale, ← mul_neg,
        clamp_mul hl]
  | step50hz =>
      have hspeed : (v.scale l m).speedMPerS = v.speedMPerS := rfl
      simp only [apply, VehicleOp.scale, step50hz, v.newSpeed_scale hl hm, hspeed]
      rfl

end Similar

/-- Dynamic similarity: similar vehicles under similar commands move alike, operation by
operation. -/
theorem similar_run (p : VehicleParams K) (l m : K) (hl : 0 < l) (hm : 0 < m)
    (ops : List (VehicleOp K)) (n : ℕ) :
    ((init (p.scale l m)).run ((ops.map (VehicleOp.scale l)).take n)).speedMPerS =
        ((init p).run (ops.take n)).speedMPerS ∧
      ((init (p.scale l m)).run ((ops.map (VehicleOp.scale l)).take n)).distanceM =
        ((init p).run (ops.take n)).distanceM := by
  have hrun := run_map (I := fun _ => True) (scale l m) (VehicleOp.scale l)
    (fun _ _ _ => trivial) (fun v op _ => v.apply_scale hl hm op) (v := init p) trivial
    (ops.take n)
  have hinit : (init p).scale l m = init (p.scale l m) := by
    simp [init, scale]
  rw [hinit, List.map_take] at hrun
  rw [hrun]
  exact ⟨rfl, rfl⟩

theorem similar_run_main :
    ((init (mainParams.scale 2 3)).run
        ((shortDrive.map (VehicleOp.scale 2)).take 5)).speedMPerS =
        ((init mainParams).run (shortDrive.take 5)).speedMPerS ∧
      ((init (mainParams.scale 2 3)).run
        ((shortDrive.map (VehicleOp.scale 2)).take 5)).distanceM =
        ((init mainParams).run (shortDrive.take 5)).distanceM :=
  similar_run mainParams 2 3 (by decide) (by decide) shortDrive 5

end Vehicle

end DriveSim
