import DriveSim.App.Machine

/-!
# The two planes of the application

Clients see the command, the flag and the parameters; the simulation sees the command
and the parameters.  Neither the speed and distance reach a client, nor does a request
that reads or is refused reach the simulation.
-/

namespace DriveSim

open Lib

section Planes

variable {K : Type*} [Field K] [LinearOrder K] [FloorRing K] (conv : Conversions K)

/-! ## The answers do not depend on the motion -/

def requestMachine : Machine (AppContext K) AppRequest AppResponse where
  step context q := context.serve conv q

structure SameForClients (s t : AppContext K) : Prop where
  params_eq : s.vehicle.params = t.vehicle.params
  torque_eq : s.vehicle.commandedTorqueNm = t.vehicle.commandedTorqueNm
  failure_eq : s.acceleratorSensorFailure = t.acceleratorSensorFailure

theorem SameForClients.command {s t : AppContext K} (h : SameForClients s t)
    (c : Option Int16) :
    (s.command conv c).1 = (t.command conv c).1 ∧
      SameForClients (s.command conv c).2 (t.command conv c).2 := by
  cases c with
  | none => exact ⟨rfl, h⟩
  | some c =>
      have hvalid : isTorqueCommandValid conv s c = isTorqueCommandValid conv t c := by
        rw [isTorqueCommandValid, isTorqueCommandValid, h.params_eq]
      rw [AppContext.command, AppContext.command, hvalid]
      split_ifs
      · apply And.intro rfl
        exact ⟨h.params_eq, by simp [Vehicle.setTorque_commandedTorqueNm, h.params_eq], rfl⟩
      · exact ⟨rfl, h.params_eq, h.torque_eq, rfl⟩

theorem SameForClients.serve {s t : AppContext K} (h : SameForClients s t) (q : AppRequest) :
    (s.serve conv q).1 = (t.serve conv q).1 ∧
      SameForClients (s.serve conv q).2 (t.serve conv q).2 := by
  cases hread : q.isRead with
  | false =>
      have hc := h.command conv q.command?
      rw [AppContext.serve_write conv s hread, AppContext.serve_write conv t hread, hc.1]
      exact ⟨rfl, hc.2⟩
  | true =>
      rw [AppContext.serve_read conv s hread, AppContext.serve_read conv t hread]
      apply And.intro _ h
      cases q with
      | readDiscreteInputs address quantity out =>
          simp only [AppContext.serve, readDiscreteInputs_eq, h.failure_eq]
          split_ifs <;> rfl
      | readHoldingRegisters address quantity out =>
          simp only [AppContext.serve, readHoldingRegisters_eq, h.torque_eq]
          split_ifs <;> rfl
      | readInputRegisters address quantity out =>
          simp only [AppContext.serve, readInputRegisters, h.params_eq]
          split_ifs <;> rfl
      | writeSingleRegister address value => simp [AppRequest.isRead] at hread
      | writeMultipleRegisters address quantity registers => simp [AppRequest.isRead] at hread

/-- To its clients the application is the server thread alone. -/
theorem refines_requestMachine :
    Machine.Refines (appMachine conv) (requestMachine conv) AppEvent.request?
      AppOutput.response? SameForClients where
  silent s t event h hevent := by
    cases event with
    | simulationStep => exact ⟨rfl, h.params_eq, h.torque_eq, h.failure_eq⟩
    | request q => simp [AppEvent.request?] at hevent
  visible s t event q h hevent := by
    cases event with
    | simulationStep => simp [AppEvent.request?] at hevent
    | request q' =>
        have hq : q' = q := by simpa [AppEvent.request?] using hevent
        have hserve := h.serve conv q'
        rw [← hq]
        exact ⟨congrArg some hserve.1, hserve.2⟩

/-! ## The motion does not depend on reads and refusals -/

/-- The event is a read, or a request this context answers with an exception. -/
def withoutEffect (context : AppContext K) : AppEvent → Bool
  | .simulationStep => false
  | .request q => q.isRead || (context.serve conv q).1.error.isException

def SameForSimulation (s t : AppContext K) : Prop := s.vehicle = t.vehicle

theorem serve_of_withoutEffect {context : AppContext K} {q : AppRequest}
    (h : withoutEffect conv context (.request q) = true) :
    SameForSimulation (context.serve conv q).2 context := by
  cases hread : q.isRead with
  | true => exact congrArg AppContext.vehicle (AppContext.serve_read conv context hread)
  | false =>
      rw [withoutEffect, hread, Bool.false_or, AppContext.serve_write conv context hread] at h
      rw [AppContext.serve_write conv context hread]
      cases hc : q.command? with
      | none => rfl
      | some c =>
          rw [hc, AppContext.command] at h
          rw [AppContext.command]
          split_ifs at h ⊢ with hvalid
          · simp [AppResponse.error, NmbsError.isException, NmbsError.code] at h
          · rfl

theorem SameForSimulation.serve {s t : AppContext K} (h : SameForSimulation s t)
    {q : AppRequest} (hq : withoutEffect conv s (.request q) = false) :
    SameForSimulation (s.serve conv q).2 (t.serve conv q).2 := by
  have hread : q.isRead = false := by
    rw [withoutEffect, Bool.or_eq_false_iff] at hq
    exact hq.1
  rw [AppContext.serve_write conv s hread, AppContext.serve_write conv t hread]
  cases q.command? with
  | none => exact h
  | some c =>
      have hvalid : isTorqueCommandValid conv s c = isTorqueCommandValid conv t c := by
        rw [isTorqueCommandValid, isTorqueCommandValid, h]
      rw [AppContext.command, AppContext.command, hvalid]
      split_ifs
      · exact congrArg (fun v => v.setTorque (c.toInt : K)) h
      · exact h

theorem unwinding_simulation :
    Machine.Unwinding (appMachine conv) (withoutEffect conv) AppOutput.motion?
      SameForSimulation where
  hide s t event h hevent := by
    cases event with
    | simulationStep => simp [withoutEffect] at hevent
    | request q => exact ⟨rfl, (serve_of_withoutEffect conv hevent).trans h⟩
  keep s t event h hevent := by
    cases event with
    | simulationStep =>
        have hstep : s.simulationStep.vehicle = t.simulationStep.vehicle :=
          congrArg Vehicle.step50hz h
        apply And.intro _ hstep
        simp only [appMachine, AppOutput.motion?, hstep]
    | request q => exact ⟨rfl, h.serve conv hevent⟩

/-! ## Two runs -/

def responses (context : AppContext K) (history : List AppEvent) : List AppResponse :=
  ((appMachine conv).outputs context history).filterMap AppOutput.response?

def trajectory (context : AppContext K) (history : List AppEvent) : List (K × K) :=
  ((appMachine conv).outputs context history).filterMap AppOutput.motion?

theorem run_params (context : AppContext K) (history : List AppEvent) :
    ((appMachine conv).run context history).vehicle.params = context.vehicle.params := by
  have hstep : ∀ (s : AppContext K) event, s.vehicle.params = context.vehicle.params →
      ((appMachine conv).step s event).2.vehicle.params = context.vehicle.params := by
    intro s event hs
    cases event with
    | simulationStep => exact hs
    | request q =>
        have hserve : (s.serve conv q).2.vehicle.params = s.vehicle.params := by
          rcases s.serve_vehicle conv q with hkept | ⟨torqueNm, hset⟩
          · rw [hkept]
          · rw [hset]
            rfl
        exact hserve.trans hs
  exact Machine.run_invariant hstep rfl history

/-- Two histories from one context: equal requests give equal answers, and histories
that agree up to reads and refused requests give equal motions and equal parameters. -/
theorem planes_separated (context : AppContext K) (history history' : List AppEvent) :
    (history.filterMap AppEvent.request? = history'.filterMap AppEvent.request? →
      responses conv context history = responses conv context history') ∧
    ((appMachine conv).purge (withoutEffect conv) context history =
        (appMachine conv).purge (withoutEffect conv) context history' →
      trajectory conv context history = trajectory conv context history' ∧
      ((appMachine conv).run context history).vehicle.params =
        ((appMachine conv).run context history').vehicle.params) := by
  constructor
  · intro hrequests
    have hserver := refines_requestMachine conv
    have hself : SameForClients context context := ⟨rfl, rfl, rfl⟩
    calc responses conv context history
        = (requestMachine conv).outputs context (history.filterMap AppEvent.request?) :=
          hserver.outputs_eq hself history
      _ = (requestMachine conv).outputs context (history'.filterMap AppEvent.request?) := by
          rw [hrequests]
      _ = responses conv context history' := (hserver.outputs_eq hself history').symm
  · intro hpurged
    have hunwind := unwinding_simulation conv
    have hself : SameForSimulation context context := rfl
    have hmotion : trajectory conv context history = trajectory conv context history' := by
      calc trajectory conv context history
          = trajectory conv context
              ((appMachine conv).purge (withoutEffect conv) context history) :=
            hunwind.outputs_eq hself history
        _ = trajectory conv context
              ((appMachine conv).purge (withoutEffect conv) context history') := by
            rw [hpurged]
        _ = trajectory conv context history' := (hunwind.outputs_eq hself history').symm
    exact ⟨hmotion, (run_params conv context history).trans
      (run_params conv context history').symm⟩

end Planes

end DriveSim
