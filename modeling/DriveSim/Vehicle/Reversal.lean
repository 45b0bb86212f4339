import DriveSim.Lib.SignChange
import DriveSim.Vehicle.Run

/-!
# Reversing the direction of travel

The zero-crossing clamp makes the speeds after successive steps a sequence without
jumps, and only a traction stronger than the rolling force leaves standstill
backwards.
-/

namespace DriveSim

namespace Vehicle

open DriveSim.Lib

variable {K : Type*} [Field K] [LinearOrder K]

theorem resistive_of_mem_stepsOf {v u : Vehicle K} (hp : v.params.Resistive)
    {ops : List (VehicleOp K)} (hu : u ∈ v.stepsOf ops) : u.params.Resistive := by
  rw [params_of_mem_stepsOf hu]
  exact hp

def Linked (steps : List (Vehicle K)) : Prop :=
  ∀ t, ∀ _ : t + 1 < steps.length, steps[t + 1].speedMPerS = steps[t].newSpeed

theorem linked_stepsOf (v : Vehicle K) (ops : List (VehicleOp K)) : Linked (v.stepsOf ops) :=
  fun _ ht => (stepsOf_succ ht).1

/-- The vehicle at the start of a run and after each of its steps. -/
def samples (v : Vehicle K) (ops : List (VehicleOp K)) : List (Vehicle K) :=
  v :: (v.stepsOf ops).map step50hz

theorem samples_succ {v : Vehicle K} {ops : List (VehicleOp K)} {t : ℕ}
    (ht : t + 1 < (v.samples ops).length) :
    ∃ u : Vehicle K, u.speedMPerS = (v.samples ops)[t].speedMPerS ∧
      u.distanceM = (v.samples ops)[t].distanceM ∧ (v.samples ops)[t + 1] = u.step50hz := by
  have hlt : t < (v.stepsOf ops).length := by simpa [samples] using ht
  refine ⟨(v.stepsOf ops)[t], ?_⟩
  cases t with
  | zero =>
      have hhead := stepsOf_head (List.getElem?_eq_getElem hlt)
      exact ⟨hhead.1, hhead.2, by simp [samples]⟩
  | succ t =>
      have hlink := stepsOf_succ hlt
      exact ⟨by simp [samples, hlink.1], by simp [samples, hlink.2], by simp [samples]⟩

variable [IsStrictOrderedRing K]

/-- Leaving standstill backwards takes a backward force beyond the rolling force. -/
theorem tractiveForce_of_reversing {v : Vehicle K} (hp : v.params.Resistive)
    (hstop : v.speedMPerS = 0) (hback : v.newSpeed < 0) :
    v.tractiveForce < -v.params.rollingForceMagnitude := by
  cases v.forwardStep hp hstop.ge with
  | held _ _ hnew => exact absurd (hnew.trans hstop) hback.ne
  | rolling _ hnew => exact absurd (hnew ▸ le_max_left 0 _) hback.not_ge
  | pushedBack _ hpos _ _ => exact absurd hstop hpos.ne'
  | reversing _ hstrong _ => exact hstrong

theorem Linked.mirror {steps : List (Vehicle K)} (h : Linked steps) :
    Linked (steps.map Vehicle.mirror) := by
  intro t ht
  rw [List.length_map] at ht
  simp [h t ht]

theorem Linked.exists_reversing {steps : List (Vehicle K)} (h : Linked steps)
    (hp : ∀ u ∈ steps, u.params.Resistive) {i j : ℕ} (hij : i < j) (hj : j < steps.length)
    (hi : 0 < steps[i].newSpeed) (hneg : steps[j].newSpeed < 0) :
    ∃ l, ∃ _ : i < l, ∃ _ : l < j, steps[l].newSpeed = 0 ∧ steps[l + 1].newSpeed < 0 ∧
      steps[l + 1].tractiveForce < -steps[l + 1].params.rollingForceMagnitude := by
  have hnojump : NoJump (fun t => (steps.map newSpeed).getD t 0) i j := by
    refine noJump_getD ?_ ?_ (by simpa using hj) <;> intro t ht <;>
      simp only [List.length_map, List.getElem_map] at ht ⊢ <;> rw [← h t ht]
    · exact newSpeed_nonneg_of_pos _
    · exact newSpeed_nonpos_of_neg _
  have hvalue : ∀ t, ∀ ht : t < steps.length,
      (steps.map newSpeed).getD t 0 = steps[t].newSpeed := by
    intro t ht
    rw [List.getD_eq_getElem _ _ (by simpa using ht), List.getElem_map]
  obtain ⟨l, hil, hlj, hzero, hturn⟩ := hnojump.exists_zero_of_pos_of_neg hij
    (by rwa [hvalue i (by omega)]) (by rwa [hvalue j hj])
  rw [hvalue _ (by omega)] at hzero hturn
  refine ⟨l, hil, hlj, hzero, hturn, ?_⟩
  rw [← h l (by omega)] at hzero
  exact tractiveForce_of_reversing (hp _ (List.getElem_mem _)) hzero hturn

theorem Linked.exists_advancing {steps : List (Vehicle K)} (h : Linked steps)
    (hp : ∀ u ∈ steps, u.params.Resistive) {i j : ℕ} (hij : i < j) (hj : j < steps.length)
    (hi : steps[i].newSpeed < 0) (hpos : 0 < steps[j].newSpeed) :
    ∃ l, ∃ _ : i < l, ∃ _ : l < j, steps[l].newSpeed = 0 ∧ 0 < steps[l + 1].newSpeed ∧
      steps[l + 1].params.rollingForceMagnitude < steps[l + 1].tractiveForce := by
  have hturn := h.mirror.exists_reversing (by simpa using hp) hij (by simpa using hj)
    (by simpa using hi) (by simpa using hpos)
  simpa using hturn

/-- A forward speed turns backward only through a standstill after some step `l`, which
step `l + 1` leaves backwards under a force beyond the rolling force. -/
def StopsBeforeReversing (v : Vehicle K) (ops : List (VehicleOp K)) : Prop :=
  ∀ i j, ∀ _ : i < j, ∀ hj : j < (v.stepsOf ops).length,
    0 < (v.stepsOf ops)[i].step50hz.speedMPerS →
    (v.stepsOf ops)[j].step50hz.speedMPerS < 0 →
    ∃ l, ∃ _ : i < l, ∃ _ : l < j,
      (v.stepsOf ops)[l].step50hz.speedMPerS = 0 ∧
      (v.stepsOf ops)[l + 1].step50hz.speedMPerS < 0 ∧
      (v.stepsOf ops)[l + 1].tractiveForce < -v.params.rollingForceMagnitude

/-- The mirror image of `StopsBeforeReversing`. -/
def StopsBeforeAdvancing (v : Vehicle K) (ops : List (VehicleOp K)) : Prop :=
  ∀ i j, ∀ _ : i < j, ∀ hj : j < (v.stepsOf ops).length,
    (v.stepsOf ops)[i].step50hz.speedMPerS < 0 →
    0 < (v.stepsOf ops)[j].step50hz.speedMPerS →
    ∃ l, ∃ _ : i < l, ∃ _ : l < j,
      (v.stepsOf ops)[l].step50hz.speedMPerS = 0 ∧
      0 < (v.stepsOf ops)[l + 1].step50hz.speedMPerS ∧
      v.params.rollingForceMagnitude < (v.stepsOf ops)[l + 1].tractiveForce

/-- Without a standstill on the way the vehicle travels in one direction and every step
moves the distance in that direction; or the only step from one standstill to the next
leaves the distance as it is. -/
def DistanceFollowsTravel (v : Vehicle K) (ops : List (VehicleOp K)) : Prop :=
  ∀ a b, ∀ _ : a < b, ∀ hb : b < (v.samples ops).length,
    (∀ t, a < t → ∀ _ : t < b, (v.samples ops)[t].speedMPerS ≠ 0) →
    ((∀ t, a < t → ∀ _ : t < b, 0 < (v.samples ops)[t].speedMPerS) ∧
      ∀ t, a ≤ t → ∀ _ : t < b, (v.samples ops)[t].distanceM <
        (v.samples ops)[t + 1].distanceM) ∨
    ((∀ t, a < t → ∀ _ : t < b, (v.samples ops)[t].speedMPerS < 0) ∧
      ∀ t, a ≤ t → ∀ _ : t < b, (v.samples ops)[t + 1].distanceM <
        (v.samples ops)[t].distanceM) ∨
    (b = a + 1 ∧ (v.samples ops)[a].speedMPerS = 0 ∧ (v.samples ops)[b].speedMPerS = 0 ∧
      (v.samples ops)[b].distanceM = (v.samples ops)[a].distanceM)

theorem stopsBeforeReversing (v : Vehicle K) (hp : v.params.Resistive)
    (ops : List (VehicleOp K)) : v.StopsBeforeReversing ops := by
  intro i j hij hj hi hneg
  obtain ⟨l, hil, hlj, hzero, hturn, hforce⟩ := (linked_stepsOf v ops).exists_reversing
    (fun u hu => resistive_of_mem_stepsOf hp hu) hij hj hi hneg
  rw [params_of_mem_stepsOf (List.getElem_mem (by omega))] at hforce
  exact ⟨l, hil, hlj, hzero, hturn, hforce⟩

theorem stopsBeforeAdvancing (v : Vehicle K) (hp : v.params.Resistive)
    (ops : List (VehicleOp K)) : v.StopsBeforeAdvancing ops := by
  intro i j hij hj hi hpos
  obtain ⟨l, hil, hlj, hzero, hturn, hforce⟩ := (linked_stepsOf v ops).exists_advancing
    (fun u hu => resistive_of_mem_stepsOf hp hu) hij hj hi hpos
  rw [params_of_mem_stepsOf (List.getElem_mem (by omega))] at hforce
  exact ⟨l, hil, hlj, hzero, hturn, hforce⟩

theorem samples_distanceM {v : Vehicle K} {ops : List (VehicleOp K)} {t : ℕ}
    (ht : t + 1 < (v.samples ops).length) :
    (v.samples ops)[t + 1].distanceM = (v.samples ops)[t].distanceM +
      ((v.samples ops)[t].speedMPerS + (v.samples ops)[t + 1].speedMPerS) / 100 := by
  obtain ⟨u, hspeed, hdistance, hnext⟩ := samples_succ ht
  rw [hnext, step50hz_distanceM, step50hz_speedMPerS, hspeed, hdistance, dt_eq]
  ring

theorem samples_advance {v : Vehicle K} {ops : List (VehicleOp K)} {t : ℕ}
    (ht : t + 1 < (v.samples ops).length) (hfrom : 0 ≤ (v.samples ops)[t].speedMPerS)
    (hto : 0 ≤ (v.samples ops)[t + 1].speedMPerS)
    (hmoves : (v.samples ops)[t].speedMPerS ≠ 0 ∨ (v.samples ops)[t + 1].speedMPerS ≠ 0) :
    (v.samples ops)[t].distanceM < (v.samples ops)[t + 1].distanceM := by
  rw [samples_distanceM ht]
  rcases hmoves with h | h
  · linarith [hfrom.lt_of_ne h.symm]
  · linarith [hto.lt_of_ne h.symm]

theorem samples_retreat {v : Vehicle K} {ops : List (VehicleOp K)} {t : ℕ}
    (ht : t + 1 < (v.samples ops).length) (hfrom : (v.samples ops)[t].speedMPerS ≤ 0)
    (hto : (v.samples ops)[t + 1].speedMPerS ≤ 0)
    (hmoves : (v.samples ops)[t].speedMPerS ≠ 0 ∨ (v.samples ops)[t + 1].speedMPerS ≠ 0) :
    (v.samples ops)[t + 1].distanceM < (v.samples ops)[t].distanceM := by
  rw [samples_distanceM ht]
  rcases hmoves with h | h
  · linarith [hfrom.lt_of_ne h]
  · linarith [hto.lt_of_ne h]

theorem noJump_samples (v : Vehicle K) (ops : List (VehicleOp K)) {a b : ℕ}
    (hb : b < (v.samples ops).length) :
    NoJump (fun t => ((v.samples ops).map speedMPerS).getD t 0) a b := by
  refine noJump_getD ?_ ?_ (by simpa using hb) <;> intro t ht <;>
    simp only [List.length_map, List.getElem_map] at ht ⊢ <;>
    obtain ⟨u, hspeed, -, hnext⟩ := samples_succ ht <;>
    rw [hnext, ← hspeed, step50hz_speedMPerS]
  · exact newSpeed_nonneg_of_pos u
  · exact newSpeed_nonpos_of_neg u

theorem distanceFollowsTravel (v : Vehicle K) (ops : List (VehicleOp K)) :
    v.DistanceFollowsTravel ops := by
  intro a b hab hb hne
  have hvalue : ∀ t, ∀ ht : t < (v.samples ops).length,
      ((v.samples ops).map speedMPerS).getD t 0 = (v.samples ops)[t].speedMPerS := by
    intro t ht
    rw [List.getD_eq_getElem _ _ (by simpa using ht), List.getElem_map]
  have hsame := (noJump_samples v ops hb).same_sign hab fun t hat htb => by
    rw [hvalue t (by omega)]
    exact hne t hat htb
  by_cases hstands : b = a + 1 ∧ (v.samples ops)[a].speedMPerS = 0 ∧
      (v.samples ops)[b].speedMPerS = 0
  · obtain ⟨rfl, hfrom, hto⟩ := hstands
    refine Or.inr (Or.inr ⟨rfl, hfrom, hto, ?_⟩)
    rw [samples_distanceM hb, hfrom, hto]
    ring
  -- Of the two ends of a step one lies strictly between, or is an end that moves.
  have hmoves : ∀ t, a ≤ t → ∀ _ : t < b,
      (v.samples ops)[t].speedMPerS ≠ 0 ∨ (v.samples ops)[t + 1].speedMPerS ≠ 0 := by
    intro t hat htb
    rcases hat.lt_or_eq with hlt | rfl
    · exact Or.inl (hne t hlt htb)
    · rcases Nat.lt_or_eq_of_le (Nat.succ_le_of_lt htb) with hlt | rfl
      · exact Or.inr (hne (a + 1) (by omega) hlt)
      · by_contra hnot
        rw [not_or, not_not, not_not] at hnot
        exact hstands ⟨rfl, hnot⟩
  rcases hsame with hsign | hsign
  · have hnonneg : ∀ t, a ≤ t → ∀ _ : t ≤ b, 0 ≤ (v.samples ops)[t].speedMPerS := by
      intro t hat htb
      rw [← hvalue t (by omega)]
      exact hsign t hat htb
    refine Or.inl ⟨fun t hat htb => (hnonneg t hat.le htb.le).lt_of_ne (hne t hat htb).symm, ?_⟩
    intro t hat htb
    exact samples_advance (by omega) (hnonneg t hat htb.le) (hnonneg (t + 1) (by omega) (by omega))
      (hmoves t hat htb)
  · have hnonpos : ∀ t, a ≤ t → ∀ _ : t ≤ b, (v.samples ops)[t].speedMPerS ≤ 0 := by
      intro t hat htb
      rw [← hvalue t (by omega)]
      exact hsign t hat htb
    refine Or.inr (Or.inl ⟨fun t hat htb => (hnonpos t hat.le htb.le).lt_of_ne (hne t hat htb),
      ?_⟩)
    intro t hat htb
    exact samples_retreat (by omega) (hnonpos t hat htb.le) (hnonpos (t + 1) (by omega) (by omega))
      (hmoves t hat htb)

/-- No reversal without a stop and a force that justifies it, in either direction; and
while the vehicle does not stop, the distance follows the direction of travel. -/
theorem no_reversal_without_stop (v : Vehicle K) (hmass : 0 < v.params.massKg)
    (hrolling : 0 ≤ v.params.rollingResistanceCoefficient)
    (harea : 0 ≤ v.params.frontalAreaM2) (ops : List (VehicleOp K)) :
    v.StopsBeforeReversing ops ∧ v.StopsBeforeAdvancing ops ∧ v.DistanceFollowsTravel ops :=
  have hp : v.params.Resistive := ⟨hmass, hrolling, harea⟩
  ⟨v.stopsBeforeReversing hp ops, v.stopsBeforeAdvancing hp ops, v.distanceFollowsTravel ops⟩

/-- Full torque forwards for one step, then full torque backwards for two. -/
def thereAndBack : List (VehicleOp ℚ) :=
  [.setTorque 220, .step50hz, .setTorque (-220), .step50hz, .step50hz]

theorem no_reversal_without_stop_main :
    ((init mainParams).samples thereAndBack).map (fun v => signDouble v.speedMPerS) =
      [0, 1, 0, -1] ∧
    (init mainParams).StopsBeforeReversing thereAndBack ∧
    (init mainParams).StopsBeforeAdvancing thereAndBack ∧
    (init mainParams).DistanceFollowsTravel thereAndBack :=
  ⟨by decide +kernel, no_reversal_without_stop (init mainParams) (by decide +kernel)
    (by decide +kernel) (by decide +kernel) thereAndBack⟩

end Vehicle

end DriveSim
