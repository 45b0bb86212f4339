import DriveSim.Vehicle.SpeedLimit

/-!
# How a step responds to the commanded torque

One step is compared with the step the same vehicle would take at another torque.  A
larger torque gives a larger speed, and a torque against the motion a smaller one than
coasting, with one exception each: inside the standstill band only the held branch is
free of drag, and at the motor limit no torque has any effect.
-/

namespace DriveSim

namespace Vehicle

def withTorque {K : Type*} (v : Vehicle K) (torqueNm : K) : Vehicle K :=
  { v with commandedTorqueNm := torqueNm }

@[simp] theorem withTorque_params {K : Type*} (v : Vehicle K) (t : K) :
    (v.withTorque t).params = v.params := rfl

@[simp] theorem withTorque_speedMPerS {K : Type*} (v : Vehicle K) (t : K) :
    (v.withTorque t).speedMPerS = v.speedMPerS := rfl

theorem withTorque_mirror {K : Type*} [Field K] (v : Vehicle K) (t : K) :
    v.mirror.withTorque t = (v.withTorque (-t)).mirror := by
  simp [withTorque, mirror]

variable {K : Type*} [Field K] [LinearOrder K]

/-- A step depends on the torque through the tractive force alone. -/
theorem newSpeed_withTorque_congr (v : Vehicle K) {t₁ t₂ : K}
    (h : (v.withTorque t₁).tractiveForce = (v.withTorque t₂).tractiveForce) :
    (v.withTorque t₁).newSpeed = (v.withTorque t₂).newSpeed := by
  have hopp : (v.withTorque t₁).opposingForce = (v.withTorque t₂).opposingForce := by
    rw [opposingForce, h]
    rfl
  have hint : (v.withTorque t₁).integratedSpeed = (v.withTorque t₂).integratedSpeed := by
    rw [integratedSpeed, acceleration, netForce, h, hopp]
    rfl
  rw [newSpeed, hint]
  rfl

variable [IsStrictOrderedRing K]

theorem setTorque_of_abs_le {v : Vehicle K} {t : K} (h : |t| ≤ v.params.motorMaxTorqueNm) :
    v.setTorque t = v.withTorque t := by
  rw [setTorque, clamp_eq_self (abs_le.mp h).1 (abs_le.mp h).2]
  rfl

theorem newSpeed_withTorque_of_overLimit {v : Vehicle K}
    (h : v.params.motorMaxSpeedRadPerSec ≤ |v.motorAngularSpeed|) (t₁ t₂ : K) :
    (v.withTorque t₁).newSpeed = (v.withTorque t₂).newSpeed := by
  apply newSpeed_withTorque_congr
  rw [tractiveForce_of_overLimit (v := v.withTorque t₁) h,
    tractiveForce_of_overLimit (v := v.withTorque t₂) h]

theorem tractiveForce_withTorque {v : Vehicle K} (hradius : 0 < v.params.wheelRadiusM)
    (h : |v.motorAngularSpeed| < v.params.motorMaxSpeedRadPerSec) (t : K) :
    (v.withTorque t).tractiveForce = v.params.traction t :=
  tractiveForce_of_belowLimit (v := v.withTorque t) hradius h

theorem traction_mono {p : VehicleParams K} (hradius : 0 < p.wheelRadiusM)
    (hgear : 0 < p.gearRatio) {t₁ t₂ : K} (h : t₁ ≤ t₂) : p.traction t₁ ≤ p.traction t₂ := by
  unfold VehicleParams.traction
  gcongr

/-! ## More torque -/

/-- In the standstill band the weaker torque is held without drag, and the stronger one
does not make up for the drag it meets. -/
structure DragsBack (p : VehicleParams K) (speed weak strong : K) : Prop where
  forward : 0 < speed
  slow : speed ≤ minSpeedEpsilon
  held : |p.traction weak| ≤ p.rollingForceMagnitude
  pulled : p.rollingForceMagnitude < p.traction strong
  dragged : p.traction strong < p.rollingForceMagnitude + p.dragFactor * speed ^ 2

def TorqueInversion (v : Vehicle K) (t₁ t₂ : K) : Prop :=
  |v.motorAngularSpeed| < v.params.motorMaxSpeedRadPerSec ∧
    (DragsBack v.params v.speedMPerS t₁ t₂ ∨ DragsBack v.params (-v.speedMPerS) (-t₂) (-t₁))

omit [IsStrictOrderedRing K] in
theorem torqueInversion_mirror (v : Vehicle K) (t₁ t₂ : K) :
    v.mirror.TorqueInversion (-t₂) (-t₁) ↔ v.TorqueInversion t₁ t₂ := by
  simp [TorqueInversion, or_comm]

/-- Driving forwards, more tractive force gives at least as much speed, unless it is
eaten up by the drag that a held step does not meet. -/
theorem newSpeed_withTorque_mono {v : Vehicle K} (hp : v.params.Resistive)
    (hv : 0 ≤ v.speedMPerS) {t₁ t₂ : K}
    (hforce : (v.withTorque t₁).tractiveForce ≤ (v.withTorque t₂).tractiveForce)
    (hdrag : 0 < v.speedMPerS → v.speedMPerS ≤ minSpeedEpsilon →
      |(v.withTorque t₁).tractiveForce| ≤ v.params.rollingForceMagnitude →
      v.params.rollingForceMagnitude < (v.withTorque t₂).tractiveForce →
      v.params.rollingForceMagnitude + v.params.dragFactor * v.speedMPerS ^ 2 ≤
        (v.withTorque t₂).tractiveForce) :
    (v.withTorque t₁).newSpeed ≤ (v.withTorque t₂).newSpeed := by
  have hm := hp.mass_pos
  have hR := hp.rollingForceMagnitude_nonneg
  have hmono : ∀ {f g : K}, f ≤ g →
      max 0 (v.speedMPerS + v.speedGain f) ≤ max 0 (v.speedMPerS + v.speedGain g) := by
    intro f g hfg
    exact max_le_max le_rfl (by linarith [speedGain_le_speedGain hm hfg])
  have hstep₁ := (v.withTorque t₁).forwardStep hp hv
  have hstep₂ := (v.withTorque t₂).forwardStep hp hv
  -- The second step is of the same kind as the first, or pulls harder.
  cases hstep₁ with
  | held slow₁ weak₁ speed₁ =>
      simp only [withTorque_params, withTorque_speedMPerS] at slow₁ weak₁ speed₁
      rw [speed₁]
      cases hstep₂ with
      | held _ _ speed₂ => exact speed₂.ge
      | rolling strong₂ speed₂ =>
          rcases hv.lt_or_eq with hpos | hzero
          · have hpull := hdrag hpos slow₁ weak₁ (strong₂.resolve_left slow₁.not_gt)
            exact (v.withTorque t₂).le_newSpeed_of_pulled hp hv hpull
          · rw [speed₂, ← hzero]
            exact le_max_left _ _
      | pushedBack _ _ strong₂ _ =>
          exact absurd ((abs_le.mp weak₁).1.trans hforce) strong₂.not_ge
      | reversing _ strong₂ _ =>
          exact absurd ((abs_le.mp weak₁).1.trans hforce) strong₂.not_ge
  | rolling strong₁ speed₁ =>
      simp only [withTorque_params, withTorque_speedMPerS] at strong₁ speed₁
      have hstrong₂ : minSpeedEpsilon < v.speedMPerS ∨
          v.params.rollingForceMagnitude < (v.withTorque t₂).tractiveForce :=
        strong₁.imp_right fun h => h.trans_le hforce
      cases hstep₂ with
      | held slow₂ weak₂ _ =>
          exact absurd hstrong₂ (not_or.mpr ⟨slow₂.not_gt, ((le_abs_self _).trans weak₂).not_gt⟩)
      | rolling _ speed₂ =>
          rw [speed₁, speed₂]
          exact hmono (by simpa using hforce)
      | pushedBack slow₂ _ strong₂ _ =>
          simp only [withTorque_params] at strong₂
          linarith [hstrong₂.resolve_left slow₂.not_gt]
      | reversing stopped₂ strong₂ _ =>
          simp only [withTorque_params, withTorque_speedMPerS] at stopped₂ strong₂
          rw [stopped₂] at hstrong₂
          linarith [hstrong₂.resolve_left minSpeedEpsilon_pos.not_gt]
  | pushedBack slow₁ forward₁ strong₁ speed₁ =>
      cases hstep₂ with
      | held _ _ speed₂ =>
          rw [speed₂]
          exact (v.withTorque t₁).newSpeed_le_of_pushed hp hv strong₁
      | rolling strong₂ speed₂ =>
          have hpulled := strong₂.resolve_left slow₁.not_gt
          simp only [withTorque_params] at strong₁ hpulled
          rw [speed₁, speed₂]
          exact hmono (by simp only [withTorque_params, withTorque_speedMPerS]; linarith)
      | pushedBack _ _ _ speed₂ =>
          rw [speed₁, speed₂]
          exact hmono (by simpa using hforce)
      | reversing stopped₂ _ _ => exact absurd stopped₂ forward₁.ne'
  | reversing stopped₁ strong₁ speed₁ =>
      have hback := (v.withTorque t₁).newSpeed_le_of_pushed hp hv strong₁
      cases hstep₂ with
      | held _ _ speed₂ =>
          rw [speed₂]
          exact hback
      | rolling _ speed₂ =>
          rw [speed₂]
          exact le_max_of_le_left (hback.trans stopped₁.le)
      | pushedBack _ forward₂ _ _ => exact absurd stopped₁ forward₂.ne'
      | reversing _ _ speed₂ =>
          rw [speed₁, speed₂]
          exact speedGain_le_speedGain hm (by simpa using hforce)

theorem newSpeed_withTorque_lt_of_dragsBack {v : Vehicle K} (hp : v.params.Resistive)
    (hradius : 0 < v.params.wheelRadiusM)
    (hbelow : |v.motorAngularSpeed| < v.params.motorMaxSpeedRadPerSec) {t₁ t₂ : K}
    (h : DragsBack v.params v.speedMPerS t₁ t₂) :
    (v.withTorque t₂).newSpeed < (v.withTorque t₁).newSpeed := by
  have hR := hp.rollingForceMagnitude_nonneg
  have hF₁ := tractiveForce_withTorque hradius hbelow t₁
  have hF₂ := tractiveForce_withTorque hradius hbelow t₂
  have hpulled := h.pulled
  have hkept : (v.withTorque t₁).newSpeed = v.speedMPerS := by
    cases (v.withTorque t₁).forwardStep hp h.forward.le with
    | held _ _ speed => exact speed
    | rolling strong _ =>
        rw [hF₁] at strong
        exact absurd strong (not_or.mpr ⟨h.slow.not_gt, ((le_abs_self _).trans h.held).not_gt⟩)
    | pushedBack _ _ strong _ =>
        rw [hF₁] at strong
        exact absurd strong (abs_le.mp h.held).1.not_gt
    | reversing stopped _ _ => exact absurd stopped h.forward.ne'
  rw [hkept]
  cases (v.withTorque t₂).forwardStep hp h.forward.le with
  | held _ weak _ =>
      rw [hF₂] at weak
      exact absurd h.pulled ((le_abs_self _).trans weak).not_gt
  | rolling _ speed =>
      rw [speed, hF₂]
      refine max_lt h.forward (add_lt_of_neg_right _ (div_neg_of_neg_of_pos ?_ ?_))
      · have hdragged := h.dragged
        simp only [withTorque_params, withTorque_speedMPerS]
        linarith
      · exact mul_pos (by norm_num) hp.mass_pos
  | pushedBack _ _ strong _ =>
      rw [hF₂, withTorque_params] at strong
      linarith
  | reversing stopped _ _ => exact absurd stopped h.forward.ne'

/-- More torque never gives less speed, but for the steps that drag it back. -/
theorem newSpeed_le_iff_not_torqueInversion (v : Vehicle K) (hmass : 0 < v.params.massKg)
    (hradius : 0 < v.params.wheelRadiusM) (hgear : 0 < v.params.gearRatio)
    (hrolling : 0 ≤ v.params.rollingResistanceCoefficient) (harea : 0 ≤ v.params.frontalAreaM2)
    (t₁ t₂ : K) (ht : t₁ ≤ t₂) :
    (v.withTorque t₁).step50hz.speedMPerS ≤ (v.withTorque t₂).step50hz.speedMPerS ↔
      ¬ v.TorqueInversion t₁ t₂ := by
  have hp : v.params.Resistive := ⟨hmass, hrolling, harea⟩
  simp only [step50hz_speedMPerS]
  induction v using forward_wlog generalizing t₁ t₂ with
  | hmirror v ih =>
      have hiff := ih hmass hradius hgear hrolling harea (-t₂) (-t₁) (neg_le_neg ht) hp
      rw [torqueInversion_mirror, withTorque_mirror, withTorque_mirror, newSpeed_mirror,
        newSpeed_mirror, neg_neg, neg_neg, neg_le_neg_iff] at hiff
      exact hiff
  | hforward v hv =>
      rcases lt_or_ge |v.motorAngularSpeed| v.params.motorMaxSpeedRadPerSec with hbelow | hover
      · constructor
        · rintro hle ⟨-, hdrags | hdrags⟩
          · exact (newSpeed_withTorque_lt_of_dragsBack hp hradius hbelow hdrags).not_ge hle
          · exact hdrags.forward.not_ge (neg_nonpos.mpr hv)
        · intro hnot
          have hF₁ := tractiveForce_withTorque hradius hbelow t₁
          have hF₂ := tractiveForce_withTorque hradius hbelow t₂
          refine newSpeed_withTorque_mono hp hv ?_ ?_
          · rw [hF₁, hF₂]
            exact traction_mono hradius hgear ht
          · rw [hF₁, hF₂]
            intro hpos hslow hheld hpulled
            by_contra hdragged
            exact hnot ⟨hbelow, Or.inl ⟨hpos, hslow, hheld, hpulled, not_le.mp hdragged⟩⟩
      · refine iff_of_true (newSpeed_withTorque_of_overLimit hover t₁ t₂).le ?_
        exact fun h => h.1.not_ge hover

def frictionlessParams : VehicleParams ℚ where
  massKg := 1
  frontalAreaM2 := 2
  rollingResistanceCoefficient := 0
  motorMaxSpeedRadPerSec := 100
  motorMaxTorqueNm := 100
  gearRatio := 1
  wheelRadiusM := 1

/-- A vehicle that one weak step has brought to 0.8 µm/s. -/
def crawling : Vehicle ℚ := (init frictionlessParams).run [.setTorque 4e-5, .step50hz]

theorem newSpeed_le_iff_not_torqueInversion_crawling :
    (crawling.withTorque 0).step50hz.speedMPerS ≤ (crawling.withTorque 1e-13).step50hz.speedMPerS ↔
      ¬ crawling.TorqueInversion 0 1e-13 :=
  newSpeed_le_iff_not_torqueInversion crawling (by decide +kernel) (by decide +kernel)
    (by decide +kernel) (by decide +kernel) (by decide +kernel) 0 1e-13 (by decide +kernel)

/-- Without torque the speed is kept, with a little torque forwards it drops. -/
theorem more_torque_less_speed :
    (0 : ℚ) ≤ 1e-13 ∧ (crawling.withTorque 0).step50hz.speedMPerS = 8e-7 ∧
      ¬ (crawling.withTorque 0).step50hz.speedMPerS ≤
        (crawling.withTorque 1e-13).step50hz.speedMPerS := by
  decide +kernel

/-! ## Braking -/

theorem newSpeed_of_fast {v : Vehicle K} (hp : v.params.Resistive)
    (hfast : minSpeedEpsilon < v.speedMPerS) :
    v.newSpeed = max 0 (v.speedMPerS + v.speedGain (v.tractiveForce -
      v.params.dragFactor * v.speedMPerS ^ 2 - v.params.rollingForceMagnitude)) := by
  have hpos := minSpeedEpsilon_pos.trans hfast
  cases v.forwardStep hp hpos.le with
  | held slow _ _ => exact absurd hfast slow.not_gt
  | rolling _ speed => exact speed
  | pushedBack slow _ _ _ => exact absurd hfast slow.not_gt
  | reversing stopped _ _ => exact absurd stopped hpos.ne'

theorem braking_below_limit (v : Vehicle K) (hp : v.params.Resistive)
    (hradius : 0 < v.params.wheelRadiusM) (hgear : 0 < v.params.gearRatio)
    (hfast : minSpeedEpsilon < |v.speedMPerS|)
    (hbelow : |v.motorAngularSpeed| < v.params.motorMaxSpeedRadPerSec) (t : K)
    (hopposite : t * v.speedMPerS < 0) :
    |(v.withTorque t).newSpeed| < |(v.withTorque 0).newSpeed| ∨
      (v.withTorque 0).newSpeed = 0 := by
  induction v using forward_wlog generalizing t with
  | hmirror v ih =>
      have hmirror := ih hp hradius hgear (by simpa using hfast) (by simpa using hbelow) (-t)
        (by simpa using hopposite)
      rw [withTorque_mirror, withTorque_mirror, neg_neg, neg_zero] at hmirror
      simpa using hmirror
  | hforward v hv =>
      have hm := hp.mass_pos
      rw [abs_of_nonneg hv] at hfast
      have hpos := minSpeedEpsilon_pos.trans hfast
      have ht : t < 0 := (neg_iff_pos_of_mul_neg hopposite).mpr hpos
      have hF : v.params.traction t < v.params.traction 0 := by
        unfold VehicleParams.traction
        gcongr
      have hbrake := newSpeed_of_fast (v := v.withTorque t) hp hfast
      have hcoast := newSpeed_of_fast (v := v.withTorque 0) hp hfast
      rw [tractiveForce_withTorque hradius hbelow] at hbrake hcoast
      have hlt : (v.withTorque t).speedGain (v.params.traction t -
          v.params.dragFactor * v.speedMPerS ^ 2 - v.params.rollingForceMagnitude) <
          (v.withTorque 0).speedGain (v.params.traction 0 -
            v.params.dragFactor * v.speedMPerS ^ 2 - v.params.rollingForceMagnitude) := by
        unfold speedGain
        simp only [withTorque_params]
        gcongr
      simp only [withTorque_params, withTorque_speedMPerS] at hbrake hcoast
      rw [hbrake, hcoast, abs_of_nonneg (le_max_left _ _), abs_of_nonneg (le_max_left _ _)]
      rcases le_or_gt (v.speedMPerS + (v.withTorque 0).speedGain (v.params.traction 0 -
        v.params.dragFactor * v.speedMPerS ^ 2 - v.params.rollingForceMagnitude)) 0 with h | h
      · exact Or.inr (max_eq_left h)
      · left
        rw [max_eq_right h.le]
        exact max_lt h (by linarith)

/-- Below the motor limit braking always works; at or over it the limiter takes the
braking torque away as well, and the vehicle coasts. -/
theorem braking_works_below_limit (p : VehicleParams K) (hmass : 0 < p.massKg)
    (hradius : 0 < p.wheelRadiusM) (hgear : 0 < p.gearRatio)
    (hrolling : 0 ≤ p.rollingResistanceCoefficient) (harea : 0 ≤ p.frontalAreaM2)
    (ops : List (VehicleOp K)) (t : K) (htorque : |t| ≤ p.motorMaxTorqueNm)
    (hfast : 1e-6 < |((init p).run ops).speedMPerS|)
    (hopposite : t * ((init p).run ops).speedMPerS < 0) :
    (|((init p).run ops).motorAngularSpeed| < p.motorMaxSpeedRadPerSec →
      |(((init p).run ops).setTorque t).step50hz.speedMPerS| <
          |(((init p).run ops).setTorque 0).step50hz.speedMPerS| ∨
        (((init p).run ops).setTorque 0).step50hz.speedMPerS = 0) ∧
    (p.motorMaxSpeedRadPerSec ≤ |((init p).run ops).motorAngularSpeed| →
      (((init p).run ops).setTorque t).step50hz.speedMPerS =
        (((init p).run ops).setTorque 0).step50hz.speedMPerS) := by
  have hparams : ((init p).run ops).params = p := run_params _ _
  generalize (init p).run ops = v at *
  have hzero : |(0 : K)| ≤ v.params.motorMaxTorqueNm := by
    rw [abs_zero, hparams]
    exact (abs_nonneg t).trans htorque
  rw [setTorque_of_abs_le hzero, setTorque_of_abs_le (by rwa [hparams])]
  simp only [step50hz_speedMPerS]
  constructor
  · intro hbelow
    exact braking_below_limit v (by rw [hparams]; exact ⟨hmass, hrolling, harea⟩)
      (by rwa [hparams]) (by rwa [hparams]) hfast (by rwa [hparams]) t hopposite
  · intro hover
    exact newSpeed_withTorque_of_overLimit (by rwa [hparams]) t 0

theorem braking_works_below_limit_main :
    |(((init mainParams).run [.setTorque 220, .step50hz]).setTorque (-220)).step50hz.speedMPerS| <
        |(((init mainParams).run [.setTorque 220, .step50hz]).setTorque
          (0 : ℚ)).step50hz.speedMPerS| ∨
      (((init mainParams).run [.setTorque 220, .step50hz]).setTorque (0 : ℚ)).step50hz.speedMPerS =
        0 :=
  (braking_works_below_limit mainParams (by decide +kernel) (by decide +kernel)
    (by decide +kernel) (by decide +kernel) (by decide +kernel)
    [.setTorque 220, .step50hz] (-220) (by decide +kernel) (by decide +kernel)
    (by decide +kernel)).1 (by decide +kernel)

/-- Past the limit of 1 m/s full braking torque leaves the speed of 2 m/s as it is. -/
theorem no_braking_over_limit :
    1e-6 < |overshootRun.speedMPerS| ∧ |(-100 : ℚ)| ≤ overshootParams.motorMaxTorqueNm ∧
    (-100) * overshootRun.speedMPerS < 0 ∧
    ¬ (|(overshootRun.setTorque (-100)).step50hz.speedMPerS| <
          |(overshootRun.setTorque 0).step50hz.speedMPerS| ∨
        (overshootRun.setTorque 0).step50hz.speedMPerS = 0) := by
  decide +kernel

end Vehicle

end DriveSim
