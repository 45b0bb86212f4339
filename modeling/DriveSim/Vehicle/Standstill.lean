import DriveSim.Vehicle.Run

/-!
# Standstill

Inside the band `|speed| ≤ 1e-6` a weak traction is cancelled together with every
resistance, so a held step keeps the speed it finds.  A vehicle that enters the band
with a residual speed therefore creeps on; only an exact zero stays put.
-/

namespace DriveSim

namespace Vehicle

variable {K : Type*} [Field K] [LinearOrder K]

/-- The rolling resistance can hold the tractive force of this step. -/
def Holdable (v : Vehicle K) : Prop :=
  |v.tractiveForce| ≤ v.params.rollingForceMagnitude

instance (v : Vehicle K) : Decidable v.Holdable :=
  inferInstanceAs (Decidable (|v.tractiveForce| ≤ v.params.rollingForceMagnitude))

def HeldRun (v : Vehicle K) (ops : List (VehicleOp K)) : Prop :=
  ∀ u ∈ v.stepsOf ops, u.Holdable

/-- However the run goes on with steps that can be held, from the first of them on the
speed is zero and the distance never changes again. -/
def StaysPut (v : Vehicle K) : Prop :=
  ∀ before after : List (VehicleOp K), v.HeldRun (before ++ .step50hz :: after) →
    (v.run before).step50hz.speedMPerS = 0 ∧
    ((v.run before).step50hz.run after).speedMPerS = 0 ∧
    ((v.run before).step50hz.run after).distanceM = (v.run before).step50hz.distanceM

theorem HeldRun.left {v : Vehicle K} {ops ops' : List (VehicleOp K)}
    (h : v.HeldRun (ops ++ ops')) : v.HeldRun ops := by
  intro u hu
  apply h
  rw [stepsOf_append]
  exact List.mem_append_left _ hu

theorem HeldRun.right {v : Vehicle K} {ops ops' : List (VehicleOp K)}
    (h : v.HeldRun (ops ++ ops')) : (v.run ops).HeldRun ops' := by
  intro u hu
  apply h
  rw [stepsOf_append]
  exact List.mem_append_right _ hu

variable [IsStrictOrderedRing K]

/-- A held step in the standstill band keeps the speed, whatever it is. -/
theorem newSpeed_of_held {v : Vehicle K} (hslow : |v.speedMPerS| ≤ minSpeedEpsilon)
    (hheld : v.Holdable) : v.newSpeed = v.speedMPerS := by
  have hint : v.integratedSpeed = v.speedMPerS := by
    rw [integratedSpeed, acceleration, netForce, opposingForce, absDouble_eq_abs,
      if_neg hslow.not_gt, absDouble_eq_abs]
    have hweak : |v.tractiveForce| ≤ v.params.rollingForceMagnitude := hheld
    simp [hweak]
  rw [newSpeed, hint]
  split_ifs with h₁ h₂
  · exact absurd h₁.1 h₁.2.not_gt
  · exact absurd h₂.1 h₂.2.not_gt
  · rfl

theorem distanceM_of_held {v : Vehicle K} (hslow : |v.speedMPerS| ≤ minSpeedEpsilon)
    (hheld : v.Holdable) : v.step50hz.distanceM = v.distanceM + v.speedMPerS / 50 := by
  rw [step50hz_distanceM, newSpeed_of_held hslow hheld, dt_eq]
  ring

theorem stopped_run {v : Vehicle K} (hstop : v.speedMPerS = 0) {ops : List (VehicleOp K)}
    (hheld : v.HeldRun ops) :
    (v.run ops).speedMPerS = 0 ∧ (v.run ops).distanceM = v.distanceM := by
  induction ops generalizing v with
  | nil => exact ⟨hstop, rfl⟩
  | cons op ops ih =>
      cases op with
      | setTorque t => exact ih (v := v.setTorque t) hstop hheld
      | step50hz =>
          have hslow : |v.speedMPerS| ≤ minSpeedEpsilon := by
            rw [hstop, abs_zero]
            exact minSpeedEpsilon_pos.le
          have hv : v.Holdable := hheld v (by simp)
          have hrest := ih (v := v.step50hz) ((newSpeed_of_held hslow hv).trans hstop)
            (fun u hu => hheld u (by simp [hu]))
          rw [distanceM_of_held hslow hv, hstop, zero_div, add_zero] at hrest
          exact hrest

theorem holdable_without_torque {v : Vehicle K}
    (hR : 0 ≤ v.params.rollingForceMagnitude) (hT : 0 ≤ v.params.motorMaxTorqueNm) :
    (v.setTorque 0).Holdable := by
  have hforce : (v.setTorque 0).tractiveForce = 0 := by
    have hcommand : (v.setTorque 0).commandedTorqueNm = 0 :=
      clamp_eq_self (neg_nonpos.mpr hT) hT
    simp [tractiveForce, wheelTorque, motorTorque, hcommand]
  rw [Holdable, hforce, abs_zero]
  exact hR

/-- A reached vehicle in the standstill band stays put exactly when its speed is zero:
any other speed in the band is kept for ever. -/
theorem staysPut_iff_stopped (p : VehicleParams K) (hmass : 0 < p.massKg)
    (hrolling : 0 < p.rollingResistanceCoefficient) (hmaxTorque : 0 < p.motorMaxTorqueNm)
    (ops : List (VehicleOp K))
    (hslow : |((init p).run ops).speedMPerS| ≤ minSpeedEpsilon) :
    ((init p).run ops).StaysPut ↔ ((init p).run ops).speedMPerS = 0 := by
  constructor
  · intro hstays
    have hparams : ((init p).run ops).params = p := by simp
    have hR : 0 ≤ p.rollingForceMagnitude :=
      mul_nonneg (mul_nonneg hrolling.le hmass.le) gravityMPerS2_pos.le
    have hheld : (((init p).run ops).setTorque 0).Holdable :=
      holdable_without_torque (by rwa [hparams]) (by rw [hparams]; exact hmaxTorque.le)
    have hspeed := (hstays [.setTorque 0] [] (by simpa [HeldRun] using hheld)).1
    exact (newSpeed_of_held (v := ((init p).run ops).setTorque 0) hslow hheld).symm.trans hspeed
  · intro hstop before after hheld
    have hbefore := stopped_run hstop hheld.left
    have hrest : (((init p).run ops).run before).HeldRun ([.step50hz] ++ after) := hheld.right
    have hfirst := stopped_run hbefore.1 hrest.left
    exact ⟨hfirst.1, stopped_run hfirst.1 hrest.right⟩

/-- The vehicle of the standstill test, with room for a torque just above the rolling
force of 196.2 N. -/
def creepParams : VehicleParams ℚ where
  massKg := 1000
  frontalAreaM2 := 0
  rollingResistanceCoefficient := 0.02
  motorMaxSpeedRadPerSec := 1000
  motorMaxTorqueNm := 300
  gearRatio := 1
  wheelRadiusM := 1

/-- One step at 196.21 Nm, then no torque. -/
def creepOps : List (VehicleOp ℚ) := [.setTorque 196.21, .step50hz, .setTorque 0]

theorem staysPut_iff_stopped_creep :
    ((init creepParams).run creepOps).StaysPut ↔
      ((init creepParams).run creepOps).speedMPerS = 0 :=
  staysPut_iff_stopped creepParams (by decide +kernel) (by decide +kernel) (by decide +kernel)
    creepOps (by decide +kernel)

/-- The residual speed of 0.2 µm/s carries the vehicle on although no torque is applied. -/
theorem creep_moves_on :
    |((init creepParams).run creepOps).speedMPerS| ≤ minSpeedEpsilon ∧
    ((init creepParams).run creepOps).HeldRun [.step50hz, .step50hz] ∧
    ((init creepParams).run (creepOps ++ [.step50hz])).distanceM <
      ((init creepParams).run (creepOps ++ [.step50hz, .step50hz])).distanceM ∧
    ¬ ((init creepParams).run creepOps).StaysPut := by
  have hheld : ((init creepParams).run creepOps).HeldRun [.step50hz, .step50hz] := by
    intro u hu
    simp only [stepsOf_step50hz, stepsOf_nil, List.mem_cons, List.not_mem_nil, or_false] at hu
    rcases hu with rfl | rfl
    · decide +kernel
    · decide +kernel
  refine ⟨by decide +kernel, hheld, by decide +kernel, fun hstays => ?_⟩
  have hspeed := (hstays [] [.step50hz] hheld).1
  exact absurd hspeed (by decide +kernel)

end Vehicle

end DriveSim
