import Mathlib.Logic.Function.Basic

/-!
# The interface of nanoMODBUS

Error codes and server callbacks of `nanomodbus.h`.  A callback receives the user
data `arg` as an explicit state and returns the state it leaves.
-/

namespace DriveSim

inductive NmbsError
  | invalidRequest
  | invalidUnitId
  | invalidTcpMbap
  | crc
  | transport
  | timeout
  | invalidResponse
  | invalidArgument
  | none
  | illegalFunction
  | illegalDataAddress
  | illegalDataValue
  | serverDeviceFailure
deriving DecidableEq, Repr

namespace NmbsError

def code : NmbsError → Int
  | invalidRequest => -8
  | invalidUnitId => -7
  | invalidTcpMbap => -6
  | crc => -5
  | transport => -4
  | timeout => -3
  | invalidResponse => -2
  | invalidArgument => -1
  | none => 0
  | illegalFunction => 1
  | illegalDataAddress => 2
  | illegalDataValue => 3
  | serverDeviceFailure => 4

def isException (e : NmbsError) : Bool := 0 < e.code && e.code < 5

end NmbsError

/-- Consecutive memory cells behind a C pointer. -/
abbrev Cells (α : Type*) := Nat → α

/-- `p[i] = x`. -/
def Cells.set {α : Type*} (cells : Cells α) (i : Nat) (x : α) : Cells α :=
  Function.update cells i x

@[simp] theorem Cells.set_self {α : Type*} (cells : Cells α) (i : Nat) (x : α) :
    cells.set i x i = x := by
  simp [Cells.set]

theorem Cells.set_of_ne {α : Type*} (cells : Cells α) {i j : Nat} (h : j ≠ i) (x : α) :
    cells.set i x j = cells j := by
  simp [Cells.set, h]

def nmbsBitfieldWrite (bf : Cells UInt8) (b : Nat) (v : Bool) : Cells UInt8 :=
  bf.set (b / 8) ((bf (b / 8) &&& ~~~(1 <<< (UInt8.ofNat (b % 8)))) |||
    (v.toUInt8 <<< (UInt8.ofNat (b % 8))))

theorem nmbsBitfieldWrite_zero (bf : Cells UInt8) (v : Bool) :
    nmbsBitfieldWrite (bf.set 0 0) 0 v = bf.set 0 v.toUInt8 := by
  have hbyte : ((0 : UInt8) &&& ~~~(1 <<< UInt8.ofNat 0)) ||| v.toUInt8 <<< UInt8.ofNat 0 =
      v.toUInt8 := by
    cases v <;> decide
  simp only [nmbsBitfieldWrite, Nat.zero_div, Nat.zero_mod, Cells.set_self, hbyte]
  simp [Cells.set]

abbrev ReadBits (σ : Type*) :=
  UInt16 → UInt16 → Cells UInt8 → UInt8 → σ → NmbsError × Cells UInt8 × σ

abbrev ReadRegisters (σ : Type*) :=
  UInt16 → UInt16 → Cells UInt16 → UInt8 → σ → NmbsError × Cells UInt16 × σ

abbrev WriteCoil (σ : Type*) := UInt16 → Bool → UInt8 → σ → NmbsError × σ

abbrev WriteRegister (σ : Type*) := UInt16 → UInt16 → UInt8 → σ → NmbsError × σ

abbrev WriteCoils (σ : Type*) := UInt16 → UInt16 → Cells UInt8 → UInt8 → σ → NmbsError × σ

abbrev WriteRegisters (σ : Type*) :=
  UInt16 → UInt16 → Cells UInt16 → UInt8 → σ → NmbsError × σ

/-- `nmbs_callbacks`; `none` is a null pointer.  The file record and device
identification callbacks are left out: nothing in the program ever sets them. -/
structure NmbsCallbacks (σ : Type*) where
  readCoils : Option (ReadBits σ)
  readDiscreteInputs : Option (ReadBits σ)
  readHoldingRegisters : Option (ReadRegisters σ)
  readInputRegisters : Option (ReadRegisters σ)
  writeSingleCoil : Option (WriteCoil σ)
  writeSingleRegister : Option (WriteRegister σ)
  writeMultipleCoils : Option (WriteCoils σ)
  writeMultipleRegisters : Option (WriteRegisters σ)

end DriveSim
