import DriveSim.App.Callbacks
import DriveSim.Lib.Machine

/-!
# The application as a machine

Two threads change the shared context: the simulation thread takes one 50 Hz step at a
time and the server thread runs one callback at a time.  A history is any interleaving
of the two.
-/

namespace DriveSim

open Lib

/-- One call of a Modbus callback; the output buffer keeps what the callback leaves. -/
inductive AppRequest
  | readDiscreteInputs (address quantity : UInt16) (inputsOut : Cells UInt8)
  | readHoldingRegisters (address quantity : UInt16) (registersOut : Cells UInt16)
  | readInputRegisters (address quantity : UInt16) (registersOut : Cells UInt16)
  | writeSingleRegister (address value : UInt16)
  | writeMultipleRegisters (address quantity : UInt16) (registers : Cells UInt16)

inductive AppResponse
  | bits (err : NmbsError) (inputsOut : Cells UInt8)
  | registers (err : NmbsError) (registersOut : Cells UInt16)
  | written (err : NmbsError)

inductive AppEvent
  | simulationStep
  | request (r : AppRequest)

inductive AppOutput (K : Type*)
  | moved (speedMPerS distanceM : K)
  | answered (response : AppResponse)

def AppRequest.isRead : AppRequest → Bool
  | .readDiscreteInputs .. | .readHoldingRegisters .. | .readInputRegisters .. => true
  | .writeSingleRegister .. | .writeMultipleRegisters .. => false

def AppResponse.error : AppResponse → NmbsError
  | .bits err _ | .registers err _ | .written err => err

def AppEvent.request? : AppEvent → Option AppRequest
  | .simulationStep => none
  | .request r => some r

def AppOutput.response? {K : Type*} : AppOutput K → Option AppResponse
  | .moved .. => none
  | .answered response => some response

def AppOutput.motion? {K : Type*} : AppOutput K → Option (K × K)
  | .moved speedMPerS distanceM => some (speedMPerS, distanceM)
  | .answered _ => none

def AppRequest.command? : AppRequest → Option Int16
  | .writeSingleRegister address value =>
      if address = torqueRegisterAddress then some value.toInt16 else none
  | .writeMultipleRegisters address quantity registers =>
      if address = torqueRegisterAddress ∧ quantity = 1 then some (registers 0).toInt16
      else none
  | _ => none

theorem AppRequest.command?_single_eq_some {address value : UInt16} {c : Int16} :
    command? (.writeSingleRegister address value) = some c ↔
      address = 0 ∧ value.toInt16 = c := by
  rw [command?, Option.ite_none_right_eq_some, Option.some.injEq, torqueRegisterAddress]

theorem AppRequest.command?_multiple_eq_some {address quantity : UInt16}
    {registers : Cells UInt16} {c : Int16} :
    command? (.writeMultipleRegisters address quantity registers) = some c ↔
      (address = 0 ∧ quantity = 1) ∧ (registers 0).toInt16 = c := by
  rw [command?, Option.ite_none_right_eq_some, Option.some.injEq, torqueRegisterAddress]

/-! ## What each callback can do -/

theorem readDiscreteInputs_eq {K : Type*} (address quantity : UInt16) (out : Cells UInt8)
    (context : AppContext K) :
    readDiscreteInputs address quantity out context =
      if address = acceleratorSensorFailureAddress ∧ quantity = 1 then
        (.none, out.set 0 context.acceleratorSensorFailure.toUInt8, context)
      else (.illegalDataAddress, out, context) := by
  by_cases h : address = acceleratorSensorFailureAddress ∧ quantity = 1
  · simp only [readDiscreteInputs, expectSingleRegister_eq, if_pos h, nmbsBitfieldWrite_zero,
      ne_eq, not_true, if_false]
  · simp [readDiscreteInputs, expectSingleRegister_eq, if_neg h]

section Machine

variable {K : Type*} [Field K] [LinearOrder K] [FloorRing K] (conv : Conversions K)

namespace AppContext

/-- One iteration of `vehicle_simulation_thread`. -/
def simulationStep (context : AppContext K) : AppContext K :=
  { context with vehicle := context.vehicle.step50hz }

def serve (context : AppContext K) : AppRequest → AppResponse × AppContext K
  | .readDiscreteInputs address quantity out =>
      let (err, inputs, next) := DriveSim.readDiscreteInputs address quantity out context
      (.bits err inputs, next)
  | .readHoldingRegisters address quantity out =>
      let (err, registers, next) :=
        DriveSim.readHoldingRegisters conv address quantity out context
      (.registers err registers, next)
  | .readInputRegisters address quantity out =>
      let (err, registers, next) :=
        DriveSim.readInputRegisters conv address quantity out context
      (.registers err registers, next)
  | .writeSingleRegister address value =>
      let (err, next) := DriveSim.writeSingleRegister conv address value context
      (.written err, next)
  | .writeMultipleRegisters address quantity registers =>
      let (err, next) := DriveSim.writeMultipleRegisters conv address quantity registers context
      (.written err, next)

def command (context : AppContext K) : Option Int16 → NmbsError × AppContext K
  | none => (.illegalDataAddress, context)
  | some c =>
      if isTorqueCommandValid conv context c then
        (.none, { vehicle := context.vehicle.setTorque c.toInt,
                  acceleratorSensorFailure := false })
      else (.illegalDataValue, { context with acceleratorSensorFailure := true })

end AppContext

/-- The simulation thread and the server thread, interleaved. -/
def appMachine : Machine (AppContext K) AppEvent (AppOutput K) where
  step context
    | .simulationStep =>
        (.moved context.simulationStep.vehicle.speedMPerS
          context.simulationStep.vehicle.distanceM, context.simulationStep)
    | .request r => (.answered (context.serve conv r).1, (context.serve conv r).2)

theorem readHoldingRegisters_eq (address quantity : UInt16) (out : Cells UInt16)
    (context : AppContext K) :
    readHoldingRegisters conv address quantity out context =
      if address = torqueRegisterAddress ∧ quantity = 1 then
        (.none, out.set 0 (conv.toInt16 context.vehicle.commandedTorqueNm).toUInt16, context)
      else (.illegalDataAddress, out, context) := by
  by_cases h : address = torqueRegisterAddress ∧ quantity = 1
  · simp only [readHoldingRegisters, expectSingleRegister_eq, if_pos h, ne_eq, not_true,
      if_false]
  · simp [readHoldingRegisters, expectSingleRegister_eq, if_neg h]

theorem writeMultipleRegisters_eq_command (address quantity : UInt16)
    (registers : Cells UInt16) (context : AppContext K) :
    writeMultipleRegisters conv address quantity registers context =
      context.command conv
        (AppRequest.command? (.writeMultipleRegisters address quantity registers)) := by
  by_cases h : address = torqueRegisterAddress ∧ quantity = 1
  · cases hvalid : isTorqueCommandValid conv context (registers 0).toInt16 <;>
      simp [writeMultipleRegisters, expectSingleRegister_eq, AppRequest.command?,
        AppContext.command, h, hvalid]
  · simp [writeMultipleRegisters, expectSingleRegister_eq, AppRequest.command?,
      AppContext.command, if_neg h]

theorem writeSingleRegister_eq_command (address value : UInt16) (context : AppContext K) :
    writeSingleRegister conv address value context =
      context.command conv (AppRequest.command? (.writeSingleRegister address value)) := by
  by_cases h : address = torqueRegisterAddress
  · cases hvalid : isTorqueCommandValid conv context value.toInt16 <;>
      simp [writeSingleRegister, expectSingleRegister_eq, AppRequest.command?,
        AppContext.command, h, hvalid]
  · simp [writeSingleRegister, expectSingleRegister_eq, AppRequest.command?,
      AppContext.command, h]

/-- A write answers and acts through its command alone, whichever way it came in. -/
theorem AppContext.serve_write (context : AppContext K) {r : AppRequest}
    (hwrite : r.isRead = false) :
    context.serve conv r = (.written (context.command conv r.command?).1,
      (context.command conv r.command?).2) := by
  cases r with
  | readDiscreteInputs address quantity out => simp [AppRequest.isRead] at hwrite
  | readHoldingRegisters address quantity out => simp [AppRequest.isRead] at hwrite
  | readInputRegisters address quantity out => simp [AppRequest.isRead] at hwrite
  | writeSingleRegister address value =>
      simp only [AppContext.serve, writeSingleRegister_eq_command]
  | writeMultipleRegisters address quantity registers =>
      simp only [AppContext.serve, writeMultipleRegisters_eq_command]

theorem readInputRegisters_context (address quantity : UInt16) (out : Cells UInt16)
    (context : AppContext K) :
    (readInputRegisters conv address quantity out context).2.2 = context := by
  unfold readInputRegisters
  split_ifs <;> rfl

theorem AppContext.serve_read (context : AppContext K) {r : AppRequest} (hread : r.isRead = true) :
    (context.serve conv r).2 = context := by
  cases r with
  | readDiscreteInputs address quantity out =>
      simp only [AppContext.serve, readDiscreteInputs_eq]
      split_ifs <;> rfl
  | readHoldingRegisters address quantity out =>
      simp only [AppContext.serve, readHoldingRegisters_eq]
      split_ifs <;> rfl
  | readInputRegisters address quantity out => exact readInputRegisters_context ..
  | writeSingleRegister address value => simp [AppRequest.isRead] at hread
  | writeMultipleRegisters address quantity registers => simp [AppRequest.isRead] at hread

theorem AppContext.serve_vehicle (context : AppContext K) (r : AppRequest) :
    (context.serve conv r).2.vehicle = context.vehicle ∨
      ∃ torqueNm, (context.serve conv r).2.vehicle = context.vehicle.setTorque torqueNm := by
  cases hread : r.isRead with
  | true => exact Or.inl (congrArg AppContext.vehicle (serve_read conv context hread))
  | false =>
      rw [serve_write conv context hread]
      cases r.command? with
      | none => exact Or.inl rfl
      | some c =>
          rw [command]
          split_ifs
          · exact Or.inr ⟨c.toInt, rfl⟩
          · exact Or.inl rfl

end Machine

end DriveSim
