import DriveSim.Vehicle.ConstantTorque
import Mathlib.Analysis.Normed.Field.Lemmas
import Mathlib.Topology.Order.Basic

/-!
# How a constant torque brings the vehicle to its speed

Below a speed `w` that the torque can exceed, each step gains at least what it would gain
at `w`.  So the drive passes `w` in bounded time, and then stays near the limit of the motor
or creeps up to the speed at which the resistances balance the traction.
-/

namespace DriveSim

namespace Vehicle

variable {K : Type*} [Field K] [LinearOrder K] [IsStrictOrderedRing K] {p : VehicleParams K}
  {t : K}

/-- What the torque has left at speed `w`, after drag and rolling resistance. -/
def surplus (p : VehicleParams K) (t w : K) : K :=
  p.traction t - p.rollingForceMagnitude - p.dragFactor * w ^ 2

section Drive

variable (h : p.Overcomes t)
include h

theorem drive_nonneg (n : ℕ) : 0 ≤ (drive p t n).speedMPerS := by
  induction n with
  | zero => exact le_rfl
  | succ n ih =>
      rcases lt_or_ge |(drive p t n).motorAngularSpeed| p.motorMaxSpeedRadPerSec with hlt | hover
      · rw [drive_pulling h ih hlt]
        exact le_max_left _ _
      · exact (drive_cutOff h ih hover).1

theorem drive_gain {w : K} (hlimit : w ≤ p.speedLimit) {n : ℕ}
    (hlt : (drive p t n).speedMPerS < w) :
    (drive p t n).speedMPerS + surplus p t w / (50 * p.massKg) ≤
      (drive p t (n + 1)).speedMPerS := by
  have hm := h.mass_pos
  have hk := h.dragFactor_nonneg
  have hv := drive_nonneg h n
  have hbelow := (drive_belowLimit_iff h hv).mpr (hlt.trans_le hlimit)
  rw [drive_pulling h hv hbelow]
  generalize (drive p t n).speedMPerS = v at *
  have hdrag : p.dragFactor * v ^ 2 ≤ p.dragFactor * w ^ 2 := by gcongr
  have hgain : surplus p t w / (50 * p.massKg) ≤
      (p.traction t - p.dragFactor * v ^ 2 - p.rollingForceMagnitude) / (50 * p.massKg) := by
    rw [surplus]
    exact div_le_div_of_nonneg_right (by linarith) (by positivity)
  exact le_max_of_le_right (add_le_add le_rfl hgain)

/-- Until it has passed `w`, the drive gains speed at a steady rate. -/
theorem drive_reaches {w : K} (hlimit : w ≤ p.speedLimit) (n : ℕ) :
    (∃ i ≤ n, w ≤ (drive p t i).speedMPerS) ∨
      n * (surplus p t w / (50 * p.massKg)) ≤ (drive p t n).speedMPerS := by
  induction n with
  | zero =>
      rw [Nat.cast_zero, zero_mul]
      exact .inr (drive_nonneg h 0)
  | succ n ih =>
      obtain ⟨i, hi, hreached⟩ | hrate := ih
      · exact .inl ⟨i, hi.trans n.le_succ, hreached⟩
      · rcases lt_or_ge (drive p t n).speedMPerS w with hlt | hge
        · have hgain := drive_gain h hlimit hlt
          push_cast
          exact .inr (by linarith)
        · exact .inl ⟨n, n.le_succ, hge⟩

theorem drive_reaches_in_time {w : K} (hw : 0 < surplus p t w) (hlimit : w ≤ p.speedLimit)
    {n : ℕ} (hn : 50 * p.massKg * w / surplus p t w ≤ n) :
    ∃ i ≤ n, w ≤ (drive p t i).speedMPerS := by
  have hm := h.mass_pos
  obtain hreached | hrate := drive_reaches h hlimit n
  · exact hreached
  · refine ⟨n, le_rfl, le_trans ?_ hrate⟩
    rw [div_le_iff₀ hw] at hn
    rw [← mul_div_assoc, le_div_iff₀ (by positivity)]
    linarith

end Drive

/-! ## Settling at the limit of the motor -/

/-- A torque that can hold the limit of the motor brings the vehicle there in bounded time,
and from then on its speed stays in the band of the limiter. -/
theorem settles_at_limit (p : VehicleParams K) (t : K) (hmass : 0 < p.massKg)
    (hradius : 0 < p.wheelRadiusM) (hgear : 0 < p.gearRatio)
    (hmaxSpeed : 0 < p.motorMaxSpeedRadPerSec) (hrolling : 0 ≤ p.rollingResistanceCoefficient)
    (harea : 0 ≤ p.frontalAreaM2) (htorque : 0 < t) (hmaxTorque : t ≤ p.motorMaxTorqueNm)
    (hstrong : 0 < surplus p t p.speedLimit) (n : ℕ)
    (hn : 50 * p.massKg * p.speedLimit / surplus p t p.speedLimit ≤ n) :
    p.speedLimit - (p.rollingForceMagnitude + p.dragFactor *
        (p.speedLimit + p.traction t / (50 * p.massKg)) ^ 2) / (50 * p.massKg) ≤
        (drive p t n).speedMPerS ∧
      (drive p t n).speedMPerS ≤ p.speedLimit + p.traction t / (50 * p.massKg) := by
  have hp : p.Resistive := ⟨hmass, hrolling, harea⟩
  have hdrag := hp.drag_nonneg p.speedLimit
  rw [surplus] at hstrong
  have h : p.Overcomes t :=
    { hp with
      radius_pos := hradius, gear_pos := hgear, torque_pos := htorque,
      torque_le := hmaxTorque, strong := by linarith }
  have hreach : p.rollingForceMagnitude + p.dragFactor * p.speedLimit ^ 2 ≤ p.traction t := by
    linarith
  have hvl : 0 ≤ p.speedLimit := div_nonneg (mul_nonneg hmaxSpeed.le hradius.le) hgear.le
  have hupper := band_upper h hreach hvl
  obtain ⟨i, hin, hlimit⟩ := drive_reaches_in_time h hstrong le_rfl hn
  refine ⟨?_, (hupper n).2⟩
  clear hn
  induction n, hin using Nat.le_induction with
  | base =>
      have hR := h.rollingForceMagnitude_nonneg
      have hk := h.dragFactor_nonneg
      have hloss : 0 ≤ (p.rollingForceMagnitude + p.dragFactor *
          (p.speedLimit + p.traction t / (50 * p.massKg)) ^ 2) / (50 * p.massKg) := by positivity
      linarith
  | succ n _ ih => exact (band_step h hreach (hupper n).1 (hupper n).2).2 ih

theorem settles_at_limit_light :
    limiterParams.speedLimit - (limiterParams.rollingForceMagnitude + limiterParams.dragFactor *
        (limiterParams.speedLimit + limiterParams.traction 100 / (50 * 10)) ^ 2) / (50 * 10) ≤
        (drive limiterParams 100 6).speedMPerS ∧
      (drive limiterParams 100 6).speedMPerS ≤
        limiterParams.speedLimit + limiterParams.traction 100 / (50 * 10) :=
  settles_at_limit limiterParams 100 (by decide) (by decide) (by decide) (by decide)
    (by decide +kernel) (by decide) (by decide) (by decide) (by decide +kernel) 6
    (by decide +kernel)

/-! ## Settling at the terminal speed -/

section Terminal

variable (h : p.Overcomes t)
  (hstep : 4 * p.dragFactor * (p.traction t - p.rollingForceMagnitude) / 2500 ≤ p.massKg ^ 2)
  (hlimit : surplus p t p.speedLimit < 0) (hvl : 0 ≤ p.speedLimit)
include h hstep hlimit hvl

theorem drive_lt_speedLimit (n : ℕ) : (drive p t n).speedMPerS < p.speedLimit := by
  obtain ⟨hv, hbelow⟩ := drive_below_terminal h hstep n
  have hk := h.dragFactor_nonneg
  rw [surplus] at hlimit
  by_contra hge
  have hsq : p.dragFactor * p.speedLimit ^ 2 ≤
      p.dragFactor * (drive p t n).speedMPerS ^ 2 := by
    have hle := not_lt.mp hge
    gcongr
  linarith

theorem drive_monotone : Monotone fun n => (drive p t n).speedMPerS := by
  refine monotone_nat_of_le_succ fun n => ?_
  obtain ⟨hv, hbelow⟩ := drive_below_terminal h hstep n
  have hm := h.mass_pos
  have hlt := (drive_belowLimit_iff h hv).mpr (drive_lt_speedLimit h hstep hlimit hvl n)
  have hgain : 0 ≤ (p.traction t - p.dragFactor * (drive p t n).speedMPerS ^ 2 -
      p.rollingForceMagnitude) / (50 * p.massKg) :=
    div_nonneg (by linarith) (by positivity)
  rw [drive_pulling h hv hlt]
  exact le_max_of_le_right (by linarith)

/-- Every speed below the terminal speed is passed in bounded time, once and for all. -/
theorem drive_stays_above {w : K} (hw : 0 < surplus p t w) {n : ℕ}
    (hn : 50 * p.massKg * w / surplus p t w ≤ n) : w ≤ (drive p t n).speedMPerS := by
  have hwl : w ≤ p.speedLimit := by
    by_contra hover
    have hle := (not_le.mp hover).le
    have hk := h.dragFactor_nonneg
    have hsq : p.dragFactor * p.speedLimit ^ 2 ≤ p.dragFactor * w ^ 2 := by gcongr
    rw [surplus] at hw hlimit
    linarith
  obtain ⟨i, hin, hreached⟩ := drive_reaches_in_time h hw hwl hn
  exact hreached.trans (drive_monotone h hstep hlimit hvl hin)

end Terminal

open Filter Topology in
/-- If drag and rolling resistance balance the traction before the motor gets to its limit,
the speed tends to the one at which they do. -/
theorem speed_tends_to_terminal [TopologicalSpace K] [OrderTopology K] [Archimedean K]
    (p : VehicleParams K) (t terminal : K) (hmass : 0 < p.massKg) (hradius : 0 < p.wheelRadiusM)
    (hgear : 0 < p.gearRatio) (hrolling : 0 ≤ p.rollingResistanceCoefficient)
    (harea : 0 ≤ p.frontalAreaM2) (htorque : 0 < t) (hmaxTorque : t ≤ p.motorMaxTorqueNm)
    (hstrong : p.rollingForceMagnitude < p.traction t)
    (hstep : 4 * p.dragFactor * (p.traction t - p.rollingForceMagnitude) / 2500 ≤ p.massKg ^ 2)
    (hterminal : 0 ≤ terminal) (hbelow : terminal < p.speedLimit)
    (hbalance : p.dragFactor * terminal ^ 2 = p.traction t - p.rollingForceMagnitude) :
    Tendsto (fun n => (drive p t n).speedMPerS) atTop (𝓝 terminal) := by
  have h : p.Overcomes t :=
    { mass_pos := hmass, rolling_nonneg := hrolling, area_nonneg := harea,
      radius_pos := hradius, gear_pos := hgear, torque_pos := htorque,
      torque_le := hmaxTorque, strong := hstrong }
  have hk : 0 < p.dragFactor := by
    refine lt_of_le_of_ne h.dragFactor_nonneg fun hzero => ?_
    rw [← hzero, zero_mul] at hbalance
    linarith
  have hpos : 0 < terminal := by
    refine lt_of_le_of_ne hterminal fun hzero => ?_
    rw [← hzero] at hbalance
    linarith
  have hsurplus : ∀ w, surplus p t w = p.dragFactor * (terminal ^ 2 - w ^ 2) := by
    intro w
    rw [surplus, ← hbalance, mul_sub]
  have hlimit : surplus p t p.speedLimit < 0 := by
    rw [hsurplus]
    exact mul_neg_of_pos_of_neg hk (sub_neg.mpr (by gcongr))
  have hvl : 0 ≤ p.speedLimit := hterminal.trans hbelow.le
  rw [tendsto_order]
  constructor
  · intro a ha
    set w := max 0 ((a + terminal) / 2) with hw
    have haw : a < w := lt_max_of_lt_right (by linarith)
    have hlt : w < terminal := max_lt hpos (by linarith)
    have hw0 : 0 < surplus p t w := by
      rw [hsurplus]
      have hsq : w ^ 2 < terminal ^ 2 := by
        have hnonneg : 0 ≤ w := le_max_left _ _
        gcongr
      exact mul_pos hk (sub_pos.mpr hsq)
    obtain ⟨N, hN⟩ := exists_nat_ge (50 * p.massKg * w / surplus p t w)
    filter_upwards [eventually_ge_atTop N] with n hn
    have hcast : (N : K) ≤ n := Nat.cast_le.mpr hn
    exact haw.trans_le (drive_stays_above h hstep hlimit hvl hw0 (hN.trans hcast))
  · intro b hb
    refine Eventually.of_forall fun n => lt_of_le_of_lt ?_ hb
    obtain ⟨hv, hle⟩ := drive_below_terminal h hstep n
    rw [← hbalance] at hle
    exact le_of_sq_le_sq (le_of_mul_le_mul_left hle hk) hterminal

def slipperyParams : VehicleParams ℚ where
  massKg := 10
  frontalAreaM2 := 1 / 0.6125
  rollingResistanceCoefficient := 0
  motorMaxSpeedRadPerSec := 3
  motorMaxTorqueNm := 4
  gearRatio := 1
  wheelRadiusM := 1

theorem speed_tends_to_terminal_slippery :
    Filter.Tendsto (fun n => (drive slipperyParams 4 n).speedMPerS) Filter.atTop (nhds 2) :=
  speed_tends_to_terminal slipperyParams 4 2 (by decide) (by decide) (by decide) (by decide)
    (by decide +kernel) (by decide) (by decide) (by decide +kernel) (by decide +kernel)
    (by decide) (by decide +kernel) (by decide +kernel)

end Vehicle

end DriveSim
