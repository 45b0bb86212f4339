import DriveSim.Nmbs.Server

/-!
# The client side of `nanomodbus.c`

The calls a client has for what this server offers, over TCP as everywhere here.  A client
has no callbacks, and the fields of `nmbs_t` that only a client uses take the place of the
user data.  `platform.flush`, which its platform may replace, is a parameter.
-/

namespace DriveSim

open Lib

/-- `dest_address_rtu` and `current_tid`. -/
structure ClientFields where
  destAddressRtu : UInt8
  currentTid : UInt16

/-- The identifier of the next transaction is never 0. -/
def ClientFields.next (fields : ClientFields) : ClientFields :=
  if fields.currentTid = 0xFFFF then { fields with currentTid := 1 }
  else { fields with currentTid := fields.currentTid + 1 }

abbrev ClientM := NmbsM ClientFields

def Nmbs.clientCreate (conn : Conn) : Nmbs ClientFields where
  msg := ⟨fun _ => 0, 0, 0, 0, 0, false⟩
  byteTimeoutMs := -1
  readTimeoutMs := -1
  callbacks := ⟨none, none, none, none, none, none, none, none⟩
  arg := ⟨0, 0⟩
  conn := conn

/-! ## Requests -/

section Requests

variable (platformFlush : ClientM Unit)

def msgStateReq (fc : UInt8) : ClientM Unit := do
  Program.modify fun st => st.setArg st.arg.next
  platformFlush
  msgStateReset
  Program.modify fun st =>
    { st with msg := { st.msg with
        unitId := st.arg.destAddressRtu, fc := fc, transactionId := st.arg.currentTid } }

def sendRequest (fc : UInt8) (address value : UInt16) : ClientM NmbsError := do
  msgStateReq platformFlush fc
  putMsgHeader 4
  put2 address
  put2 value
  sendMsg

end Requests

/-! ## Responses -/

section Responses

variable {σ : Type*}

/-- `(nmbs_error) exception`, for an exception from 1 to 4. -/
def NmbsError.ofException (exception : UInt8) : NmbsError :=
  if exception = 1 then .illegalFunction
  else if exception = 2 then .illegalDataAddress
  else if exception = 3 then .illegalDataValue
  else .serverDeviceFailure

/-- `recv_res_header`.  The function code of an exception has its high bit added. -/
def recvResHeader : NmbsM σ NmbsError := Program.withState fun req => do
  let (err, _) ← recvMsgHeader
  if err ≠ .none then return err
  Program.withState fun res => do
    if res.msg.transactionId ≠ req.msg.transactionId then return .invalidTcpMbap
    if res.msg.fc ≠ req.msg.fc then
      if res.msg.fc.toNat = req.msg.fc.toNat + 0x80 then
        let err ← recv 1
        if err ≠ .none then return err
        let exception ← get1
        if exception < 1 ∨ 4 < exception then return .invalidResponse
        return .ofException exception
      return .invalidResponse
    return .none

def recvReadDiscreteRes (values : Cells UInt8) : NmbsM σ (NmbsError × Cells UInt8) := do
  let err ← recvResHeader
  if err ≠ .none then return (err, values)
  let err ← recv 1
  if err ≠ .none then return (err, values)
  let coilsBytes ← get1
  if 250 < coilsBytes then return (.invalidResponse, values)
  let err ← recv coilsBytes.toNat
  if err ≠ .none then return (err, values)
  let values ← getBytes values 0 coilsBytes.toNat
  return (.none, values)

def recvReadRegistersRes (quantity : UInt16) (registers : Cells UInt16) :
    NmbsM σ (NmbsError × Cells UInt16) := do
  let err ← recvResHeader
  if err ≠ .none then return (err, registers)
  let err ← recv 1
  if err ≠ .none then return (err, registers)
  let registersBytes ← get1
  if 250 < registersBytes ∨ registersBytes.toNat ≠ quantity.toNat * 2 then
    return (.invalidResponse, registers)
  let err ← recv registersBytes.toNat
  if err ≠ .none then return (err, registers)
  let registers ← getRegisters registers 0 (registersBytes.toNat / 2)
  return (.none, registers)

def recvWriteRes (address value : UInt16) : NmbsM σ NmbsError := do
  let err ← recvResHeader
  if err ≠ .none then return err
  let err ← recv 4
  if err ≠ .none then return err
  let addressRes ← get2
  let valueRes ← get2
  if addressRes ≠ address then return .invalidResponse
  if valueRes ≠ value then return .invalidResponse
  return .none

def recvWriteSingleRegisterRes (address valueReq : UInt16) : NmbsM σ NmbsError :=
  recvWriteRes address valueReq

def recvWriteMultipleRegistersRes (address quantity : UInt16) : NmbsM σ NmbsError :=
  recvWriteRes address quantity

end Responses

/-! ## Calls -/

section Calls

variable (platformFlush : ClientM Unit)

def readDiscrete (fc : UInt8) (address quantity : UInt16) (values : Cells UInt8) :
    ClientM (NmbsError × Cells UInt8) := do
  if quantity < 1 ∨ 2000 < quantity then return (.invalidArgument, values)
  if 0xFFFF + 1 < address.toNat + quantity.toNat then return (.invalidArgument, values)
  let err ← sendRequest platformFlush fc address quantity
  if err ≠ .none then return (err, values)
  recvReadDiscreteRes values

def nmbsReadDiscreteInputs (address quantity : UInt16) (inputsOut : Cells UInt8) :
    ClientM (NmbsError × Cells UInt8) :=
  readDiscrete platformFlush 2 address quantity inputsOut

def readRegisters (fc : UInt8) (address quantity : UInt16) (registers : Cells UInt16) :
    ClientM (NmbsError × Cells UInt16) := do
  if quantity < 1 ∨ 125 < quantity then return (.invalidArgument, registers)
  if 0xFFFF + 1 < address.toNat + quantity.toNat then return (.invalidArgument, registers)
  let err ← sendRequest platformFlush fc address quantity
  if err ≠ .none then return (err, registers)
  recvReadRegistersRes quantity registers

def nmbsReadHoldingRegisters (address quantity : UInt16) (registersOut : Cells UInt16) :
    ClientM (NmbsError × Cells UInt16) :=
  readRegisters platformFlush 3 address quantity registersOut

def nmbsReadInputRegisters (address quantity : UInt16) (registersOut : Cells UInt16) :
    ClientM (NmbsError × Cells UInt16) :=
  readRegisters platformFlush 4 address quantity registersOut

def nmbsWriteSingleRegister (address value : UInt16) : ClientM NmbsError := do
  let err ← sendRequest platformFlush 6 address value
  if err ≠ .none then return err
  recvWriteSingleRegisterRes address value

def nmbsWriteMultipleRegisters (address quantity : UInt16) (registers : Cells UInt16) :
    ClientM NmbsError := do
  if quantity < 1 ∨ 0x007B < quantity then return .invalidArgument
  if 0xFFFF + 1 < address.toNat + quantity.toNat then return .invalidArgument
  let registersBytes := UInt8.ofNat (quantity.toNat * 2)
  msgStateReq platformFlush 16
  putMsgHeader (5 + registersBytes.toUInt16)
  put2 address
  put2 quantity
  put1 registersBytes
  putRegisters registers 0 quantity.toNat
  let err ← sendMsg
  if err ≠ .none then return err
  recvWriteMultipleRegistersRes address quantity

end Calls

end DriveSim
