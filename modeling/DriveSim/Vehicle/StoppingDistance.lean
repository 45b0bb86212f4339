import DriveSim.Vehicle.Coasting
import DriveSim.Vehicle.Energy

/-!
# How far the vehicle coasts

A coasting step takes `v ^ 2 / (2 * d)` down by at least the distance it covers, where `d`
is the deceleration of the rolling resistance.  Two kinds of step do not: the one that is
cut off at standstill, of which there is one, and those inside the standstill band.
-/

namespace DriveSim

variable {K : Type*} [Field K]

def VehicleParams.deceleration (p : VehicleParams K) : K :=
  gravityMPerS2 * p.rollingResistanceCoefficient

/-- What a vehicle with deceleration `d` coasts from speed `v`, if time were continuous. -/
def coastingReach (d v : K) : K := v ^ 2 / (d + d)

theorem coastingReach_eq (d v : K) : coastingReach d v = v ^ 2 / (2 * d) := by
  rw [coastingReach, two_mul]

variable [LinearOrder K] [IsStrictOrderedRing K]

theorem VehicleParams.coastingLoss_eq (p : VehicleParams K) :
    p.coastingLoss = p.deceleration / 50 := by
  rw [coastingLoss, deceleration, dt_eq, mul_one_div]

/-- A step that loses at least `d / 50` pays for the distance it covers. -/
theorem coastingReach_step {d v v' : K} (hd : 0 < d) (hv' : 0 ≤ v') (hloss : v' ≤ v - d / 50) :
    (v + v') / 100 + coastingReach d v' ≤ coastingReach d v := by
  have hpaid : (v + v') / 100 * (2 * d) + v' ^ 2 ≤ v ^ 2 := by
    have hsum : 0 ≤ v + v' := by linarith [div_nonneg hd.le (by norm_num : (0 : K) ≤ 50)]
    have hgap : d / 50 * (v + v') ≤ (v - v') * (v + v') := by gcongr; linarith
    linarith
  rw [coastingReach_eq, coastingReach_eq, le_div_iff₀ (by positivity), add_mul,
    div_mul_cancel₀ _ (by positivity)]
  exact hpaid

theorem cutOff_step {d : K} (hd : 0 < d) (v : K) : v / 100 ≤ coastingReach d v + d / 20000 := by
  have hsq : 0 ≤ (v - d / 100) ^ 2 / (2 * d) := by positivity
  have heq : (v - d / 100) ^ 2 / (2 * d) = coastingReach d v + d / 20000 - v / 100 := by
    rw [coastingReach_eq]
    field_simp
    ring
  linarith

namespace Vehicle

/-- What a forward coasting step does to the speed. -/
theorem coasting_step_cases {v : Vehicle K} (hp : v.params.Resistive) (hF : v.tractiveForce = 0)
    (hv : 0 ≤ v.speedMPerS) :
    (v.speedMPerS ≤ minSpeedEpsilon ∧ v.newSpeed = v.speedMPerS) ∨ v.newSpeed = 0 ∨
      v.newSpeed ≤ v.speedMPerS - v.params.deceleration / 50 := by
  have hR := hp.rollingForceMagnitude_nonneg
  cases v.forwardStep hp hv with
  | held hslow _ hnew => exact .inl ⟨hslow, hnew⟩
  | rolling _ hnew =>
      have hgain := coasting_speedGain_le hp hF
      rw [v.params.coastingLoss_eq] at hgain
      rcases max_choice 0 (v.speedMPerS + v.speedGain (v.tractiveForce -
        v.params.dragFactor * v.speedMPerS ^ 2 - v.params.rollingForceMagnitude)) with hcut | hfree
      · exact .inr (.inl (hnew.trans hcut))
      · rw [hfree] at hnew
        exact .inr (.inr (by linarith))
  | pushedBack _ _ hback _ => linarith
  | reversing _ hback _ => linarith

section Forward

variable {v : Vehicle K} (hp : v.params.Resistive) (hd : 0 < v.params.deceleration)
  (htorque : v.commandedTorqueNm = 0) (hv : 0 ≤ v.speedMPerS)
include hp hd htorque hv

/-- What the vehicle has covered is paid by its speed, but for the standstill band and the
last step. -/
theorem coasting_distance_forward (n : ℕ) :
    (step50hz^[n] v).distanceM - v.distanceM +
        coastingReach v.params.deceleration (step50hz^[n] v).speedMPerS ≤
        coastingReach v.params.deceleration v.speedMPerS + n * (minSpeedEpsilon / 50) ∨
      (step50hz^[n] v).speedMPerS = 0 ∧
        (step50hz^[n] v).distanceM - v.distanceM ≤
          coastingReach v.params.deceleration v.speedMPerS + v.params.deceleration / 20000 +
            n * (minSpeedEpsilon / 50) := by
  have heps : (0 : K) < minSpeedEpsilon := minSpeedEpsilon_pos
  induction n with
  | zero =>
      left
      simp
  | succ n ih =>
      have hnonneg := coasting_nonneg hp htorque hv n
      have hnext := coasting_nonneg hp htorque hv (n + 1)
      have hcases := coasting_step_cases (v := step50hz^[n] v) (by simpa using hp)
        (coasting_tractiveForce htorque n) hnonneg
      have hdistance := (step50hz^[n] v).stepDistance_eq
      rw [stepDistance] at hdistance
      rw [iterate_step50hz_params] at hcases
      rw [Function.iterate_succ_apply', step50hz_speedMPerS] at hnext ⊢
      push_cast
      generalize step50hz^[n] v = u at *
      obtain hpaid | ⟨hstop, hcovered⟩ := ih
      · obtain ⟨hslow, hheld⟩ | hzero | hloss := hcases
        · left
          rw [hheld] at hdistance ⊢
          linarith
        · right
          rw [hzero] at hdistance ⊢
          have hlast := cutOff_step hd u.speedMPerS
          exact ⟨rfl, by linarith⟩
        · left
          have hstep := coastingReach_step hd hnext hloss
          linarith
      · right
        have hstopped : u.newSpeed = 0 := by
          obtain ⟨_, hheld⟩ | hzero | hloss := hcases
          · exact hheld.trans hstop
          · exact hzero
          · rw [hstop] at hloss
            have hpos : 0 < v.params.deceleration / 50 := by positivity
            linarith
        rw [hstop, hstopped] at hdistance
        exact ⟨hstopped, by linarith⟩

omit hd in
theorem coasting_distance_nonneg (n : ℕ) : v.distanceM ≤ (step50hz^[n] v).distanceM := by
  induction n with
  | zero => exact le_rfl
  | succ n ih =>
      have hnonneg := coasting_nonneg hp htorque hv n
      have hnext := coasting_nonneg hp htorque hv (n + 1)
      have hdistance := (step50hz^[n] v).stepDistance_eq
      rw [stepDistance] at hdistance
      rw [Function.iterate_succ_apply', step50hz_speedMPerS] at hnext
      rw [Function.iterate_succ_apply']
      have hstep : 0 ≤ ((step50hz^[n] v).speedMPerS + (step50hz^[n] v).newSpeed) / 100 := by
        positivity
      linarith

theorem coasting_distance_forward_le (n : ℕ) :
    |(step50hz^[n] v).distanceM - v.distanceM| ≤
      coastingReach v.params.deceleration v.speedMPerS + v.params.deceleration / 20000 +
        n * (minSpeedEpsilon / 50) := by
  have hforward := coasting_distance_nonneg hp htorque hv n
  rw [abs_of_nonneg (sub_nonneg.mpr hforward)]
  obtain hpaid | ⟨_, hcovered⟩ := coasting_distance_forward hp hd htorque hv n
  · have hrest : 0 ≤ coastingReach v.params.deceleration (step50hz^[n] v).speedMPerS := by
      unfold coastingReach
      positivity
    have hslack : 0 ≤ v.params.deceleration / 20000 := by positivity
    linarith
  · exact hcovered

end Forward

theorem abs_coasting_distance_le {v : Vehicle K} (hp : v.params.Resistive)
    (hd : 0 < v.params.deceleration) (htorque : v.commandedTorqueNm = 0) (n : ℕ) :
    |(step50hz^[n] v).distanceM - v.distanceM| ≤
      coastingReach v.params.deceleration v.speedMPerS + v.params.deceleration / 20000 +
        n * (minSpeedEpsilon / 50) := by
  rcases le_total 0 v.speedMPerS with hv | hv
  · exact coasting_distance_forward_le hp hd htorque hv n
  · have hmirror := coasting_distance_forward_le (v := v.mirror) hp hd (by simp [htorque])
      (neg_nonneg.mpr hv) n
    rw [iterate_step50hz_mirror, mirror_params, mirror_speedMPerS, coastingReach, neg_sq] at hmirror
    rw [← abs_neg]
    refine le_trans (le_of_eq ?_) hmirror
    congr 1
    show _ = -(step50hz^[n] v).distanceM - -v.distanceM
    ring

/-- With no torque commanded the vehicle covers at most `v ^ 2 / (2 * 9.81 * C)`, a slack
of one step, and what it creeps inside the standstill band. -/
theorem coasting_distance_le (v : Vehicle K) (hmass : 0 < v.params.massKg)
    (hrolling : 0 < v.params.rollingResistanceCoefficient) (harea : 0 ≤ v.params.frontalAreaM2)
    (htorque : v.commandedTorqueNm = 0) (n : ℕ) :
    |(step50hz^[n] v).distanceM - v.distanceM| ≤
      v.speedMPerS ^ 2 / (2 * (9.81 * v.params.rollingResistanceCoefficient)) +
        9.81 * v.params.rollingResistanceCoefficient / 20000 + n * (1e-6 / 50) := by
  have hd : 0 < v.params.deceleration := mul_pos gravityMPerS2_pos hrolling
  have hdistance := abs_coasting_distance_le ⟨hmass, hrolling.le, harea⟩ hd htorque n
  rw [coastingReach_eq] at hdistance
  exact hdistance

theorem coasting_distance_le_main :
    |(step50hz^[5000] { init (mainParams : VehicleParams ℚ) with speedMPerS := 12 }).distanceM| ≤
      500 := by
  have hcoast := coasting_distance_le { init (mainParams : VehicleParams ℚ) with speedMPerS := 12 }
    (by decide +kernel) (by decide +kernel) (by decide +kernel) rfl 5000
  refine le_trans (le_of_eq (congrArg abs (sub_zero _).symm)) (hcoast.trans ?_)
  decide +kernel

end Vehicle

end DriveSim
