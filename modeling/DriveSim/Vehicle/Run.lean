import DriveSim.Vehicle.Step
import Mathlib.Data.List.Basic

/-!
# Runs of the drive model

A run is any finite interleaving of torque commands and simulation steps.
`stepsOf` samples the vehicle immediately before each step of a run, so a fact
about the `i`-th step of a run is a fact about `(v.stepsOf ops)[i]`.
-/

namespace DriveSim

inductive VehicleOp (K : Type*)
  | setTorque (torqueNm : K)
  | step50hz

namespace Vehicle

variable {K : Type*} [Field K] [LinearOrder K]

def apply (v : Vehicle K) : VehicleOp K → Vehicle K
  | .setTorque t => v.setTorque t
  | .step50hz => v.step50hz

def run (v : Vehicle K) (ops : List (VehicleOp K)) : Vehicle K :=
  ops.foldl apply v

@[simp] theorem run_nil (v : Vehicle K) : v.run [] = v := rfl

@[simp] theorem run_setTorque (v : Vehicle K) (t : K) (ops : List (VehicleOp K)) :
    v.run (.setTorque t :: ops) = (v.setTorque t).run ops := rfl

@[simp] theorem run_step50hz (v : Vehicle K) (ops : List (VehicleOp K)) :
    v.run (.step50hz :: ops) = v.step50hz.run ops := rfl

theorem run_append (v : Vehicle K) (ops ops' : List (VehicleOp K)) :
    v.run (ops ++ ops') = (v.run ops).run ops' :=
  List.foldl_append ..

theorem run_invariant {I : Vehicle K → Prop}
    (hset : ∀ v t, I v → I (v.setTorque t)) (hstep : ∀ v, I v → I v.step50hz)
    {v : Vehicle K} (hv : I v) (ops : List (VehicleOp K)) : I (v.run ops) := by
  induction ops generalizing v with
  | nil => exact hv
  | cons op ops ih =>
      cases op with
      | setTorque t => exact ih (hset v t hv)
      | step50hz => exact ih (hstep v hv)

@[simp] theorem run_params (v : Vehicle K) (ops : List (VehicleOp K)) :
    (v.run ops).params = v.params := by
  exact run_invariant (I := fun u => u.params = v.params) (fun _ _ h => h) (fun _ h => h)
    rfl ops

theorem run_map {I : Vehicle K → Prop} (f : Vehicle K → Vehicle K)
    (g : VehicleOp K → VehicleOp K) (hkeep : ∀ v op, I v → I (v.apply op))
    (hcomm : ∀ v op, I v → (f v).apply (g op) = f (v.apply op)) {v : Vehicle K} (hv : I v)
    (ops : List (VehicleOp K)) : (f v).run (ops.map g) = f (v.run ops) := by
  induction ops generalizing v with
  | nil => rfl
  | cons op ops ih =>
      have htail := ih (hkeep v op hv)
      rw [← hcomm v op hv] at htail
      exact htail

/-- The vehicle just before each step of a run. -/
def stepsOf (v : Vehicle K) : List (VehicleOp K) → List (Vehicle K)
  | [] => []
  | .setTorque t :: ops => (v.setTorque t).stepsOf ops
  | .step50hz :: ops => v :: v.step50hz.stepsOf ops

@[simp] theorem stepsOf_nil (v : Vehicle K) : v.stepsOf [] = [] := rfl

@[simp] theorem stepsOf_setTorque (v : Vehicle K) (t : K) (ops : List (VehicleOp K)) :
    v.stepsOf (.setTorque t :: ops) = (v.setTorque t).stepsOf ops := rfl

@[simp] theorem stepsOf_step50hz (v : Vehicle K) (ops : List (VehicleOp K)) :
    v.stepsOf (.step50hz :: ops) = v :: v.step50hz.stepsOf ops := rfl

theorem stepsOf_append (v : Vehicle K) (ops ops' : List (VehicleOp K)) :
    v.stepsOf (ops ++ ops') = v.stepsOf ops ++ (v.run ops).stepsOf ops' := by
  induction ops generalizing v with
  | nil => rfl
  | cons op ops ih =>
      cases op with
      | setTorque t => exact ih (v.setTorque t)
      | step50hz => simp [ih v.step50hz]

theorem params_of_mem_stepsOf {v u : Vehicle K} {ops : List (VehicleOp K)}
    (hu : u ∈ v.stepsOf ops) : u.params = v.params := by
  induction ops generalizing v with
  | nil => simp at hu
  | cons op ops ih =>
      cases op with
      | setTorque t => exact ih (v := v.setTorque t) hu
      | step50hz =>
          rcases List.mem_cons.mp hu with rfl | hu
          · rfl
          · exact ih (v := v.step50hz) hu

theorem stepsOf_head {v u : Vehicle K} {ops : List (VehicleOp K)}
    (h : (v.stepsOf ops)[0]? = some u) :
    u.speedMPerS = v.speedMPerS ∧ u.distanceM = v.distanceM := by
  induction ops generalizing v with
  | nil => simp at h
  | cons op ops ih =>
      cases op with
      | setTorque t => exact ih (v := v.setTorque t) h
      | step50hz =>
          have huv : v = u := by simpa using h
          exact huv ▸ ⟨rfl, rfl⟩

/-- Each step starts at the speed and distance where the previous one ended. -/
theorem stepsOf_succ {v : Vehicle K} {ops : List (VehicleOp K)} {i : Nat}
    (hi : i + 1 < (v.stepsOf ops).length) :
    (v.stepsOf ops)[i + 1].speedMPerS = (v.stepsOf ops)[i].newSpeed ∧
      (v.stepsOf ops)[i + 1].distanceM = (v.stepsOf ops)[i].step50hz.distanceM := by
  induction ops generalizing v i with
  | nil => simp at hi
  | cons op ops ih =>
      cases op with
      | setTorque t => exact ih (v := v.setTorque t) hi
      | step50hz =>
          cases i with
          | zero =>
              have h0 : 0 < (v.step50hz.stepsOf ops).length := by simpa using hi
              exact stepsOf_head (List.getElem?_eq_getElem h0)
          | succ i => exact ih (v := v.step50hz) (by simpa using hi)

theorem exists_first_step {P : Vehicle K → Prop} {v : Vehicle K} {ops : List (VehicleOp K)}
    (h : ∃ u ∈ v.stepsOf ops, P u) :
    ∃ before after, ops = before ++ .step50hz :: after ∧
      (∀ u ∈ v.stepsOf before, ¬ P u) ∧ P (v.run before) := by
  induction ops generalizing v with
  | nil => simp at h
  | cons op ops ih =>
      cases op with
      | setTorque t =>
          obtain ⟨before, after, hops, hnot, hP⟩ := ih (v := v.setTorque t) h
          exact ⟨.setTorque t :: before, after, by rw [hops, List.cons_append], hnot, hP⟩
      | step50hz =>
          by_cases hv : P v
          · exact ⟨[], ops, rfl, by simp, hv⟩
          · have htail : ∃ u ∈ v.step50hz.stepsOf ops, P u := by
              obtain ⟨u, hu, hP⟩ := h
              rcases List.mem_cons.mp hu with rfl | hu
              · exact absurd hP hv
              · exact ⟨u, hu, hP⟩
            obtain ⟨before, after, hops, hnot, hP⟩ := ih htail
            refine ⟨.step50hz :: before, after, by rw [hops, List.cons_append], ?_, hP⟩
            intro u hu
            rcases List.mem_cons.mp hu with rfl | hu
            · exact hv
            · exact hnot u hu

end Vehicle

end DriveSim
