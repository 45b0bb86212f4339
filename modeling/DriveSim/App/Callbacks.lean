import DriveSim.Lib.Binary64
import DriveSim.Lib.Conversion
import DriveSim.Nmbs.Interface
import DriveSim.Vehicle.Run

/-!
# The Modbus callbacks of `DriveSim.c`

Every callback works on the shared `AppContext`.  The mutex makes each access to the
vehicle atomic, so a callback is one transition of the context.  Console output has
no effect on the context and is left out.
-/

namespace DriveSim

open Lib

def acceleratorSensorFailureAddress : UInt16 := 0

def paramCount : Nat := 7

def torqueRegisterAddress : UInt16 := 0

structure AppContext (K : Type*) where
  vehicle : Vehicle K
  acceleratorSensorFailure : Bool

def expectSingleRegister (address quantity expectedAddress : UInt16) : NmbsError :=
  if address ≠ expectedAddress ∨ quantity ≠ 1 then .illegalDataAddress else .none

theorem expectSingleRegister_eq (address quantity expectedAddress : UInt16) :
    expectSingleRegister address quantity expectedAddress =
      if address = expectedAddress ∧ quantity = 1 then .none else .illegalDataAddress := by
  simp only [expectSingleRegister, ne_eq, ← not_and_or, ite_not]

section Callbacks

variable {K : Type*} [Field K] [LinearOrder K] [FloorRing K] (conv : Conversions K)

/-- The argument of the cast in `encode_scaled`.  The product and the sum are doubles. -/
def scaledForRegister (value scale : K) : K :=
  Binary64.nearest (Binary64.nearest (value * scale) + 0.5)

def encodeScaled (value scale : K) : UInt16 :=
  if value ≤ 0 then 0 else conv.toUInt16 (scaledForRegister value scale)

/-- Both sides of the comparison truncate the limit first. -/
def isTorqueCommandValid (context : AppContext K) (torqueCommand : Int16) : Bool :=
  -(conv.toInt16 context.vehicle.params.motorMaxTorqueNm).toInt ≤ torqueCommand.toInt &&
    torqueCommand.toInt ≤ (conv.toInt16 context.vehicle.params.motorMaxTorqueNm).toInt

def readDiscreteInputs (address quantity : UInt16) (inputsOut : Cells UInt8)
    (context : AppContext K) : NmbsError × Cells UInt8 × AppContext K :=
  let err := expectSingleRegister address quantity acceleratorSensorFailureAddress
  if err ≠ .none then (err, inputsOut, context)
  else
    (.none, nmbsBitfieldWrite (inputsOut.set 0 0) 0 context.acceleratorSensorFailure, context)

def readHoldingRegisters (address quantity : UInt16) (registersOut : Cells UInt16)
    (context : AppContext K) : NmbsError × Cells UInt16 × AppContext K :=
  let err := expectSingleRegister address quantity torqueRegisterAddress
  if err ≠ .none then (err, registersOut, context)
  else
    (.none, registersOut.set 0 (conv.toInt16 context.vehicle.commandedTorqueNm).toUInt16,
      context)

/-- The `switch` of `read_input_registers`; `none` is its `default` branch. -/
def inputRegister (params : VehicleParams K) : Nat → Option UInt16
  | 0 => some (encodeScaled conv params.massKg 1)
  | 1 => some (encodeScaled conv params.frontalAreaM2 1000)
  | 2 => some (encodeScaled conv params.rollingResistanceCoefficient 10000)
  | 3 => some (encodeScaled conv params.motorMaxSpeedRadPerSec 1)
  | 4 => some (encodeScaled conv params.motorMaxTorqueNm 1)
  | 5 => some (encodeScaled conv params.gearRatio 100)
  | 6 => some (encodeScaled conv params.wheelRadiusM 1000)
  | _ => none

/-- The loop of `read_input_registers` with `remaining` iterations to go. -/
def readInputRegistersFrom (params : VehicleParams K) (address i : Nat)
    (registersOut : Cells UInt16) : Nat → NmbsError × Cells UInt16
  | 0 => (.none, registersOut)
  | remaining + 1 =>
      match inputRegister conv params (address + i) with
      | some word =>
          readInputRegistersFrom params address (i + 1) (registersOut.set i word) remaining
      | none => (.illegalDataAddress, registersOut)

def readInputRegisters (address quantity : UInt16) (registersOut : Cells UInt16)
    (context : AppContext K) : NmbsError × Cells UInt16 × AppContext K :=
  if quantity < 1 then (.illegalDataValue, registersOut, context)
  else if paramCount < address.toNat + quantity.toNat then
    (.illegalDataAddress, registersOut, context)
  else
    let (err, registers) := readInputRegistersFrom conv context.vehicle.params address.toNat 0
      registersOut quantity.toNat
    (err, registers, context)

def writeSingleRegister (address value : UInt16) (context : AppContext K) :
    NmbsError × AppContext K :=
  let torqueCommand := value.toInt16
  let err := expectSingleRegister address 1 torqueRegisterAddress
  if err ≠ .none then (err, context)
  else if !isTorqueCommandValid conv context torqueCommand then
    (.illegalDataValue, { context with acceleratorSensorFailure := true })
  else
    (.none, { vehicle := context.vehicle.setTorque torqueCommand.toInt,
              acceleratorSensorFailure := false })

def writeMultipleRegisters (address quantity : UInt16) (registers : Cells UInt16)
    (context : AppContext K) : NmbsError × AppContext K :=
  let err := expectSingleRegister address quantity torqueRegisterAddress
  if err ≠ .none then (err, context)
  else
    let torqueCommand := (registers 0).toInt16
    if !isTorqueCommandValid conv context torqueCommand then
      (.illegalDataValue, { context with acceleratorSensorFailure := true })
    else
      (.none, { vehicle := context.vehicle.setTorque torqueCommand.toInt,
                acceleratorSensorFailure := false })

def appCallbacks : NmbsCallbacks (AppContext K) where
  readCoils := none
  readDiscreteInputs := some fun address quantity out _ => readDiscreteInputs address quantity out
  readHoldingRegisters := some fun address quantity out _ =>
    readHoldingRegisters conv address quantity out
  readInputRegisters := some fun address quantity out _ =>
    readInputRegisters conv address quantity out
  writeSingleCoil := none
  writeSingleRegister := some fun address value _ => writeSingleRegister conv address value
  writeMultipleCoils := none
  writeMultipleRegisters := some fun address quantity registers _ =>
    writeMultipleRegisters conv address quantity registers

/-- The application before its threads start: `Vehicle_init`, one `Vehicle_set_torque`
and a cleared flag. -/
def appInit (params : VehicleParams K) (torqueNm : K) : AppContext K where
  vehicle := (Vehicle.init params).setTorque torqueNm
  acceleratorSensorFailure := false

end Callbacks

end DriveSim
