import DriveSim.App.Machine
import DriveSim.Lib.Linearization
import Mathlib.Data.Rat.Floor

/-!
# The three threads of the program

`main` starts the simulation thread and the heartbeat thread and goes on as the server.
Here every access to the shared `AppContext` is a step of its own, and so are `mtx_lock` and
`mtx_unlock`.  `read_discrete_inputs` reads the failure flag without the mutex, which no
other thread ever touches.
-/

namespace DriveSim

open Lib

/-! ## The shared memory -/

/-- The cells of the `AppContext`.  No thread stores parameters, so they are one cell. -/
inductive Cell
  | params
  | commandedTorqueNm
  | speedMPerS
  | distanceM
  | acceleratorSensorFailure
deriving DecidableEq

abbrev Cell.Value (K : Type) : Cell → Type
  | .params => VehicleParams K
  | .commandedTorqueNm => K
  | .speedMPerS => K
  | .distanceM => K
  | .acceleratorSensorFailure => Bool

def AppContext.memory {K : Type} (context : AppContext K) : ∀ c, Cell.Value K c
  | .params => context.vehicle.params
  | .commandedTorqueNm => context.vehicle.commandedTorqueNm
  | .speedMPerS => context.vehicle.speedMPerS
  | .distanceM => context.vehicle.distanceM
  | .acceleratorSensorFailure => context.acceleratorSensorFailure

inductive AppThread
  | simulation
  | heartbeat
  | server
deriving DecidableEq

/-- The mutex guards the vehicle; the failure flag belongs to the server thread. -/
def Cell.home : Cell → Option AppThread
  | .acceleratorSensorFailure => some .server
  | _ => none

inductive AppOp
  | simulationStep
  | heartbeat
  | request (r : AppRequest)

inductive AppResult (K : Type)
  | stepped
  | printed (speedMPerS : K)
  | answered (response : AppResponse)

def AppThread.Runs : AppThread → AppOp → Prop
  | .simulation, .simulationStep => True
  | .heartbeat, .heartbeat => True
  | .server, .request _ => True
  | _, _ => False

/-! ## The code of the threads -/

abbrev AppCode (K : Type) (ρ : Type) := Code (Cell.Value K) ρ

section Code

variable {K : Type} [Field K] [LinearOrder K] [FloorRing K] (conv : Conversions K)

namespace AppCode

open Code

def vehicleSetTorque (torqueNm : K) : AppCode K Unit := do
  let params : VehicleParams K ← read Cell.params
  write Cell.commandedTorqueNm
    (clamp torqueNm (-params.motorMaxTorqueNm) params.motorMaxTorqueNm)

def vehicleGetSpeed : AppCode K K := @read _ (Cell.Value K) .speedMPerS

def vehicleStep50hz : AppCode K Unit := do
  let oldSpeed : K ← read Cell.speedMPerS
  let params : VehicleParams K ← read Cell.params
  let torque : K ← read Cell.commandedTorqueNm
  -- nothing the new speed is computed from depends on the distance
  let newSpeed := Vehicle.newSpeed ⟨params, torque, oldSpeed, 0⟩
  write Cell.speedMPerS newSpeed
  let distance : K ← read Cell.distanceM
  write Cell.distanceM (distance + 0.5 * (oldSpeed + newSpeed) * dt)

def heartbeatThread : AppCode K (AppResult K) := do
  acquire
  let speed ← vehicleGetSpeed
  release
  pure (.printed speed)

def vehicleSimulationThread : AppCode K (AppResult K) := do
  acquire
  vehicleStep50hz
  release
  pure .stepped

def isTorqueCommandValid (torqueCommand : Int16) : AppCode K Bool := do
  let params : VehicleParams K ← read Cell.params
  pure (-(conv.toInt16 params.motorMaxTorqueNm).toInt ≤ torqueCommand.toInt &&
    torqueCommand.toInt ≤ (conv.toInt16 params.motorMaxTorqueNm).toInt)

def readDiscreteInputs (address quantity : UInt16) (inputsOut : Cells UInt8) :
    AppCode K AppResponse :=
  let err := expectSingleRegister address quantity acceleratorSensorFailureAddress
  if err ≠ .none then pure (.bits err inputsOut)
  else do
    let failure : Bool ← read Cell.acceleratorSensorFailure
    pure (.bits .none (nmbsBitfieldWrite (inputsOut.set 0 0) 0 failure))

def readHoldingRegisters (address quantity : UInt16) (registersOut : Cells UInt16) :
    AppCode K AppResponse :=
  let err := expectSingleRegister address quantity torqueRegisterAddress
  if err ≠ .none then pure (.registers err registersOut)
  else do
    acquire
    let torque : K ← read Cell.commandedTorqueNm
    release
    pure (.registers .none (registersOut.set 0 (conv.toInt16 torque).toUInt16))

/-- The loop of `read_input_registers`, which unlocks the mutex wherever it ends. -/
def readInputRegistersFrom (address i : Nat) (registersOut : Cells UInt16) :
    Nat → AppCode K AppResponse
  | 0 => do
      release
      pure (.registers .none registersOut)
  | remaining + 1 => do
      let params : VehicleParams K ← read Cell.params
      match inputRegister conv params (address + i) with
      | some word => readInputRegistersFrom address (i + 1) (registersOut.set i word) remaining
      | none =>
          release
          pure (.registers .illegalDataAddress registersOut)

def readInputRegisters (address quantity : UInt16) (registersOut : Cells UInt16) :
    AppCode K AppResponse :=
  if quantity < 1 then pure (.registers .illegalDataValue registersOut)
  else if paramCount < address.toNat + quantity.toNat then
    pure (.registers .illegalDataAddress registersOut)
  else do
    acquire
    readInputRegistersFrom conv address.toNat 0 registersOut quantity.toNat

def commandTorque (torqueCommand : Int16) : AppCode K AppResponse := do
  acquire
  let valid ← isTorqueCommandValid conv torqueCommand
  if !valid then
    write Cell.acceleratorSensorFailure true
    release
    pure (.written .illegalDataValue)
  else
    write Cell.acceleratorSensorFailure false
    vehicleSetTorque torqueCommand.toInt
    release
    pure (.written .none)

def writeSingleRegister (address value : UInt16) : AppCode K AppResponse :=
  let err := expectSingleRegister address 1 torqueRegisterAddress
  if err ≠ .none then pure (.written err)
  else commandTorque conv value.toInt16

def writeMultipleRegisters (address quantity : UInt16) (registers : Cells UInt16) :
    AppCode K AppResponse :=
  let err := expectSingleRegister address quantity torqueRegisterAddress
  if err ≠ .none then pure (.written err)
  else commandTorque conv (registers 0).toInt16

def serve : AppRequest → AppCode K AppResponse
  | .readDiscreteInputs address quantity out => readDiscreteInputs address quantity out
  | .readHoldingRegisters address quantity out => readHoldingRegisters conv address quantity out
  | .readInputRegisters address quantity out => readInputRegisters conv address quantity out
  | .writeSingleRegister address value => writeSingleRegister conv address value
  | .writeMultipleRegisters address quantity registers =>
      writeMultipleRegisters conv address quantity registers

end AppCode

def appThreads : Threads (Cell.Value K) AppThread AppOp (AppResult K) where
  runs := AppThread.Runs
  code
    | .simulationStep => AppCode.vehicleSimulationThread
    | .heartbeat => AppCode.heartbeatThread
    | .request r => .answered <$> AppCode.serve conv r

def programMachine : Machine (AppContext K) AppOp (AppResult K) where
  step context
    | .simulationStep => (.stepped, context.simulationStep)
    | .heartbeat => (.printed context.vehicle.speedMPerS, context)
    | .request r => (.answered (context.serve conv r).1, (context.serve conv r).2)

/-! ## The accesses in their order -/

namespace AppCode

open Code

omit [FloorRing K] in
theorem vehicleSimulationThread_eq : (vehicleSimulationThread : AppCode K (AppResult K)) =
    lock (load Cell.speedMPerS fun (oldSpeed : K) =>
      load Cell.params fun (params : VehicleParams K) =>
        load Cell.commandedTorqueNm fun (torque : K) =>
          store Cell.speedMPerS (Vehicle.newSpeed ⟨params, torque, oldSpeed, 0⟩)
            (load Cell.distanceM fun (distance : K) =>
              store Cell.distanceM
                (distance + 0.5 * (oldSpeed + Vehicle.newSpeed ⟨params, torque, oldSpeed, 0⟩) * dt)
                (unlock (done .stepped)))) := rfl

theorem commandTorque_eq (c : Int16) : commandTorque conv c =
    lock (load Cell.params fun (params : VehicleParams K) =>
      if !(-(conv.toInt16 params.motorMaxTorqueNm).toInt ≤ c.toInt &&
          c.toInt ≤ (conv.toInt16 params.motorMaxTorqueNm).toInt) then
        store Cell.acceleratorSensorFailure true (unlock (done (.written .illegalDataValue)))
      else
        store Cell.acceleratorSensorFailure false (load Cell.params fun (params : VehicleParams K) =>
          store Cell.commandedTorqueNm
            (clamp (c.toInt : K) (-params.motorMaxTorqueNm) params.motorMaxTorqueNm)
            (unlock (done (.written .none))))) := rfl

end AppCode

/-! ## Each operation on its own -/

section Memory

variable (context : AppContext K)

omit [Field K] [LinearOrder K] [FloorRing K]

theorem update_torque (torqueNm : K) :
    Function.update context.memory .commandedTorqueNm torqueNm =
      AppContext.memory { context with
        vehicle := { context.vehicle with commandedTorqueNm := torqueNm } } := by
  funext c
  cases c <;> rfl

theorem update_speed (speedMPerS : K) :
    Function.update context.memory .speedMPerS speedMPerS =
      AppContext.memory { context with
        vehicle := { context.vehicle with speedMPerS := speedMPerS } } := by
  funext c
  cases c <;> rfl

theorem update_distance (distanceM : K) :
    Function.update context.memory .distanceM distanceM =
      AppContext.memory { context with
        vehicle := { context.vehicle with distanceM := distanceM } } := by
  funext c
  cases c <;> rfl

theorem update_failure (failure : Bool) :
    Function.update context.memory .acceleratorSensorFailure failure =
      AppContext.memory { context with acceleratorSensorFailure := failure } := by
  funext c
  cases c <;> rfl

end Memory

namespace AppCode

open Code

variable (context : AppContext K)

omit [FloorRing K] in
theorem run_vehicleSimulationThread : vehicleSimulationThread.run context.memory =
    (.stepped, context.simulationStep.memory) := by
  rw [vehicleSimulationThread_eq]
  simp only [run, update_speed, update_distance]
  rfl

theorem run_commandTorque (c : Int16) : (commandTorque conv c).run context.memory =
    (.written (context.command conv (some c)).1, (context.command conv (some c)).2.memory) := by
  rw [commandTorque_eq, AppContext.command]
  change (if !DriveSim.isTorqueCommandValid conv context c then _ else _ : AppCode K _).run
    context.memory = _
  cases DriveSim.isTorqueCommandValid conv context c with
  | false =>
      simp only [Bool.not_false, if_true, run, update_failure, Bool.false_eq_true, if_false]
  | true =>
      simp only [Bool.not_true, if_true, run, update_failure, update_torque, Bool.false_eq_true,
        if_false]
      rfl

theorem run_readInputRegistersFrom (address i : Nat) (out : Cells UInt16) (remaining : Nat) :
    (readInputRegistersFrom conv address i out remaining).run context.memory =
      (.registers (DriveSim.readInputRegistersFrom conv context.vehicle.params address i out
          remaining).1
        (DriveSim.readInputRegistersFrom conv context.vehicle.params address i out remaining).2,
        context.memory) := by
  induction remaining generalizing i out with
  | zero => rfl
  | succ remaining ih =>
      rw [readInputRegistersFrom, DriveSim.readInputRegistersFrom, read_bind, run]
      dsimp only [AppContext.memory]
      cases inputRegister conv context.vehicle.params (address + i) with
      | some word => exact ih (i + 1) (out.set i word)
      | none => rfl

/-- Alone, every callback does what its model does at once. -/
theorem run_serve (r : AppRequest) : (serve conv r).run context.memory =
    ((context.serve conv r).1, (context.serve conv r).2.memory) := by
  cases r with
  | readDiscreteInputs address quantity out =>
      simp only [serve, readDiscreteInputs, AppContext.serve, DriveSim.readDiscreteInputs]
      split_ifs <;> rfl
  | readHoldingRegisters address quantity out =>
      simp only [serve, readHoldingRegisters, AppContext.serve, DriveSim.readHoldingRegisters]
      split_ifs <;> rfl
  | readInputRegisters address quantity out =>
      simp only [serve, readInputRegisters, AppContext.serve, DriveSim.readInputRegisters]
      split_ifs
      · rfl
      · rfl
      · exact run_readInputRegistersFrom conv context _ _ _ _
  | writeSingleRegister address value =>
      simp only [serve, writeSingleRegister, AppContext.serve, writeSingleRegister_eq_command,
        expectSingleRegister_eq, AppRequest.command?, and_true]
      by_cases h : address = torqueRegisterAddress
      · simp only [if_pos h, ne_eq, not_true, if_false, run_commandTorque]
      · simp only [if_neg h, ne_eq, reduceCtorEq, not_false_eq_true, if_true]
        rfl
  | writeMultipleRegisters address quantity registers =>
      simp only [serve, writeMultipleRegisters, AppContext.serve,
        writeMultipleRegisters_eq_command, expectSingleRegister_eq, AppRequest.command?]
      by_cases h : address = torqueRegisterAddress ∧ quantity = 1
      · simp only [if_pos h, ne_eq, not_true, if_false, run_commandTorque]
      · simp only [if_neg h, ne_eq, reduceCtorEq, not_false_eq_true, if_true]
        rfl

end AppCode

theorem appThreads_implements :
    (appThreads conv).Implements (programMachine conv) AppContext.memory := by
  intro op context
  cases op with
  | simulationStep => exact AppCode.run_vehicleSimulationThread context
  | heartbeat => rfl
  | request r =>
      show (AppResult.answered <$> AppCode.serve conv r).run context.memory = _
      rw [Code.run_map, AppCode.run_serve]
      rfl

/-! ## The discipline of each thread -/

namespace AppCode

open Code

theorem mayUse_inside {c : Cell} (i : AppThread) (h : c.home = none) :
    MayUse Cell.home i .inside c := .inr ⟨h, rfl⟩

omit [Field K] [LinearOrder K] [FloorRing K] in
theorem disciplined_heartbeatThread :
    (heartbeatThread : AppCode K _).Disciplined Cell.home .heartbeat .before :=
  ⟨rfl, mayUse_inside _ rfl, fun _ => ⟨rfl, Phase.noConfusion⟩⟩

omit [FloorRing K] in
theorem disciplined_vehicleSimulationThread :
    (vehicleSimulationThread : AppCode K _).Disciplined Cell.home .simulation .before :=
  ⟨rfl, mayUse_inside _ rfl, fun _ => ⟨mayUse_inside _ rfl, fun _ => ⟨mayUse_inside _ rfl,
    fun _ => ⟨mayUse_inside _ rfl, rfl, mayUse_inside _ rfl,
      fun _ => ⟨mayUse_inside _ rfl, rfl, rfl, Phase.noConfusion⟩⟩⟩⟩⟩

theorem disciplined_commandTorque (c : Int16) :
    (commandTorque conv c).Disciplined Cell.home .server .before := by
  rw [commandTorque_eq]
  refine ⟨rfl, mayUse_inside _ rfl, fun params => ?_⟩
  dsimp only
  split_ifs
  · exact ⟨.inl rfl, rfl, rfl, Phase.noConfusion⟩
  · exact ⟨.inl rfl, rfl, mayUse_inside _ rfl, fun _ => ⟨mayUse_inside _ rfl, rfl, rfl,
      Phase.noConfusion⟩⟩

theorem disciplined_readInputRegistersFrom (address i : Nat) (out : Cells UInt16)
    (remaining : Nat) :
    (readInputRegistersFrom conv address i out remaining).Disciplined Cell.home .server
      .inside := by
  induction remaining generalizing i out with
  | zero => exact ⟨rfl, Phase.noConfusion⟩
  | succ remaining ih =>
      rw [readInputRegistersFrom, read_bind]
      refine ⟨mayUse_inside _ rfl, fun (params : VehicleParams K) => ?_⟩
      dsimp only
      cases inputRegister conv params (address + i) with
      | some word => exact ih (i + 1) (out.set i word)
      | none => exact ⟨rfl, Phase.noConfusion⟩

theorem disciplined_serve (r : AppRequest) :
    (serve conv r).Disciplined Cell.home .server .before := by
  have hpure : ∀ response : AppResponse,
      (pure response : AppCode K AppResponse).Disciplined Cell.home .server .before :=
    fun response => Phase.noConfusion
  cases r with
  | readDiscreteInputs address quantity out =>
      rw [serve, readDiscreteInputs]
      split_ifs
      · exact hpure _
      · exact ⟨.inl rfl, fun _ => Phase.noConfusion⟩
  | readHoldingRegisters address quantity out =>
      rw [serve, readHoldingRegisters]
      split_ifs
      · exact hpure _
      · exact ⟨rfl, mayUse_inside _ rfl, fun _ => ⟨rfl, Phase.noConfusion⟩⟩
  | readInputRegisters address quantity out =>
      rw [serve, readInputRegisters]
      split_ifs
      · exact hpure _
      · exact hpure _
      · exact ⟨rfl, disciplined_readInputRegistersFrom conv _ _ _ _⟩
  | writeSingleRegister address value =>
      rw [serve, writeSingleRegister]
      split_ifs
      · exact hpure _
      · exact disciplined_commandTorque conv _
  | writeMultipleRegisters address quantity registers =>
      rw [serve, writeMultipleRegisters]
      split_ifs
      · exact hpure _
      · exact disciplined_commandTorque conv _

end AppCode

theorem appThreads_disciplined : (appThreads conv).Disciplined Cell.home := by
  intro i op hruns
  cases i with
  | simulation =>
      cases op with
      | simulationStep => exact AppCode.disciplined_vehicleSimulationThread
      | heartbeat | request r => exact hruns.elim
  | heartbeat =>
      cases op with
      | heartbeat => exact AppCode.disciplined_heartbeatThread
      | simulationStep | request r => exact hruns.elim
  | server =>
      cases op with
      | request r => exact (AppCode.disciplined_serve conv r).map _
      | simulationStep | heartbeat => exact hruns.elim

/-! ## The program over all schedules -/

/-- The program has got from `context` to `s`, and its threads have shown `es` on the way. -/
def Scheduled (context : AppContext K) (es : List (CallEvent AppThread AppOp (AppResult K)))
    (s : Shared (Cell.Value K) AppThread (AppResult K)) : Prop :=
  Trace (Shared.Step (appThreads conv)) (.start context.memory) es s

variable {conv} {context : AppContext K} {es : List (CallEvent AppThread AppOp (AppResult K))}
  {s : Shared (Cell.Value K) AppThread (AppResult K)}

theorem Scheduled.simulates (h : Scheduled conv context es s) :
    ∃ a, Trace (Atomic.Step (programMachine conv) AppThread.Runs) ⟨context, fun _ => .idle⟩ es a ∧
      Simulates (appThreads conv) Cell.home AppContext.memory s a :=
  Threads.linearizable (appThreads_disciplined conv) (appThreads_implements conv) h

theorem Scheduled.quiet {s' : Shared (Cell.Value K) AppThread (AppResult K)}
    (h : Scheduled conv context es s) (hstep : Shared.Step (appThreads conv) s [] s') :
    Scheduled conv context es s' := by
  rw [← List.append_nil es]
  exact .snoc h hstep

theorem Scheduled.shows {s' : Shared (Cell.Value K) AppThread (AppResult K)}
    {e : CallEvent AppThread AppOp (AppResult K)} (h : Scheduled conv context es s)
    (hstep : Shared.Step (appThreads conv) s [e] s') : Scheduled conv context (es ++ [e]) s' :=
  .snoc h hstep

/-- In the middle of a simulation step the server reads the failure flag and goes on to
command a torque. -/
def waitingEvents : List (CallEvent AppThread AppOp (AppResult ℚ)) :=
  [.called .simulation .simulationStep,
    .called .server (.request (.readDiscreteInputs 0 1 fun _ => 0)),
    .returned .server (.answered (.bits .none
      (nmbsBitfieldWrite (Cells.set (fun _ => 0) 0 0) 0 false))),
    .called .server (.request (.writeSingleRegister 0 100))]

/-- The server waits for the mutex; the new speed is stored, the new distance is not. -/
theorem scheduled_waiting : ∃ s,
    Scheduled Conversions.wrapping (appInit mainParams 120 : AppContext ℚ) waitingEvents s ∧
      s.owner = some .simulation ∧ s.running .server ≠ none := by
  have h₀ : Scheduled Conversions.wrapping (appInit mainParams 120 : AppContext ℚ) []
    (.start _) := .nil _
  have h₁ := h₀.shows (e := .called .simulation .simulationStep) (.call rfl trivial)
  have h₂ := h₁.quiet (.lock (i := .simulation) rfl rfl)
  have h₃ := h₂.quiet (.load (i := .simulation) rfl)
  have h₄ := h₃.quiet (.load (i := .simulation) rfl)
  have h₅ := h₄.quiet (.load (i := .simulation) rfl)
  have h₆ := h₅.quiet (.store (i := .simulation) rfl)
  have h₇ := h₆.shows (e := .called .server (.request (.readDiscreteInputs 0 1 fun _ => 0)))
    (.call rfl trivial)
  have h₈ := h₇.quiet (.load (i := .server) rfl)
  have h₉ := h₈.shows (.ret (i := .server) rfl)
  have h₁₀ := h₉.shows (e := .called .server (.request (.writeSingleRegister 0 100)))
    (.call rfl trivial)
  exact ⟨_, h₁₀, rfl, Option.some_ne_none _⟩

/-- Whatever the schedule, each round of a thread and each callback takes effect at one
instant while it runs. -/
theorem threads_linearizable (h : Scheduled conv context es s) :
    ∃ a, Trace (Atomic.Step (programMachine conv) AppThread.Runs) ⟨context, fun _ => .idle⟩ es a ∧
      (s.owner = none → s.memory = a.state.memory) := by
  obtain ⟨a, htrace, hsimulates⟩ := h.simulates
  exact ⟨a, htrace, hsimulates.free⟩

theorem threads_linearizable_waiting : ∃ s a,
    Scheduled Conversions.wrapping (appInit mainParams 120 : AppContext ℚ) waitingEvents s ∧
      Trace (Atomic.Step (programMachine Conversions.wrapping) AppThread.Runs)
        ⟨appInit mainParams 120, fun _ => .idle⟩ waitingEvents a := by
  obtain ⟨s, hscheduled, _⟩ := scheduled_waiting
  obtain ⟨a, htrace, _⟩ := threads_linearizable hscheduled
  exact ⟨s, a, hscheduled, htrace⟩

/-- No two threads ever get to use the same cell at the same time. -/
theorem threads_race_free (h : Scheduled conv context es s) : ¬ s.Races := by
  obtain ⟨a, _, hsimulates⟩ := h.simulates
  exact hsimulates.orderly.not_races

theorem threads_race_free_waiting : ∃ s,
    Scheduled Conversions.wrapping (appInit mainParams 120 : AppContext ℚ) waitingEvents s ∧
      ¬ s.Races := by
  obtain ⟨s, hscheduled, _⟩ := scheduled_waiting
  exact ⟨s, hscheduled, threads_race_free hscheduled⟩

/-- No schedule leads to a deadlock: whatever a thread is in the middle of, it can end. -/
theorem threads_never_stuck (h : Scheduled conv context es s) {i : AppThread}
    (hrunning : s.running i ≠ none) :
    ∃ es' r s', Scheduled conv context (es ++ (es' ++ [.returned i r])) s' := by
  obtain ⟨a, _, hsimulates⟩ := h.simulates
  obtain ⟨es', r, s', htrace⟩ := hsimulates.orderly.can_return (appThreads conv) hrunning
  exact ⟨es', r, s', Trace.append h htrace⟩

theorem threads_never_stuck_waiting : ∃ es r s',
    Scheduled Conversions.wrapping (appInit mainParams 120 : AppContext ℚ)
      (waitingEvents ++ (es ++ [.returned .server r])) s' := by
  obtain ⟨s, hscheduled, _, hrunning⟩ := scheduled_waiting
  exact threads_never_stuck hscheduled hrunning

end Code

end DriveSim
