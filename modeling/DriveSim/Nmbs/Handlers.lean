import DriveSim.Nmbs.Server

/-!
# The server side of `nanomodbus.c`: requests

One handler for each function code, the dispatch on the function code and
`nmbs_server_poll`.  Over TCP the whole message has been received before a handler
runs, so that its calls of `recv` only pass.  Local arrays have the fixed sizes of the
branch without variable-length arrays, and cells the source leaves uninitialized are 0;
no callback of the program and no answer reads one.
-/

namespace DriveSim

open Lib

section Handlers

variable {σ : Type*}

def runCallback {α : Type} (callback : UInt8 → σ → α × σ) : NmbsM σ α := fun st =>
  .ok ((callback st.msg.unitId st.arg).1, st.setArg (callback st.msg.unitId st.arg).2)

/-- A callback that fills an array; the array starts with zeros where the source clears
it, and no callback of the program reads it. -/
def runReadCallback {α : Type} (callback : UInt16 → UInt16 → Cells α → UInt8 → σ →
    NmbsError × Cells α × σ) (address quantity : UInt16) (cells : Cells α) :
    NmbsM σ (NmbsError × Cells α) :=
  runCallback fun unitId arg =>
    let (err, out, next) := callback address quantity cells unitId arg
    ((err, out), next)

def handleReadDiscrete (callback : Option (ReadBits σ)) : NmbsM σ NmbsError := do
  let err ← recv 4
  if err ≠ .none then return err
  let address ← get2
  let quantity ← get2
  if quantity < 1 ∨ 2000 < quantity then return ← sendExceptionMsg .illegalDataValue
  if 0xFFFF + 1 < address.toNat + quantity.toNat then
    return ← sendExceptionMsg .illegalDataAddress
  match callback with
  | some callback => do
      let (err, bitfield) ← runReadCallback callback address quantity (fun _ => 0)
      if err ≠ .none then return ← sendExceptionMsg (callbackException err)
      let discreteBytes := (quantity.toNat + 7) / 8
      putMsgHeader (UInt16.ofNat (1 + discreteBytes))
      put1 (UInt8.ofNat discreteBytes)
      putBytes bitfield 0 discreteBytes
      sendMsg
  | none => sendExceptionMsg .illegalFunction

def handleReadRegisters (callback : Option (ReadRegisters σ)) : NmbsM σ NmbsError := do
  let err ← recv 4
  if err ≠ .none then return err
  let address ← get2
  let quantity ← get2
  if quantity < 1 ∨ 125 < quantity then return ← sendExceptionMsg .illegalDataValue
  if 0xFFFF + 1 < address.toNat + quantity.toNat then
    return ← sendExceptionMsg .illegalDataAddress
  match callback with
  | some callback => do
      let (err, regs) ← runReadCallback callback address quantity (fun _ => 0)
      if err ≠ .none then return ← sendExceptionMsg (callbackException err)
      let regsBytes := quantity.toNat * 2
      putMsgHeader (UInt16.ofNat (1 + regsBytes))
      put1 (UInt8.ofNat regsBytes)
      putRegisters regs 0 quantity.toNat
      sendMsg
  | none => sendExceptionMsg .illegalFunction

def handleReadCoils : NmbsM σ NmbsError :=
  Program.withState fun st => handleReadDiscrete st.callbacks.readCoils

def handleReadDiscreteInputs : NmbsM σ NmbsError :=
  Program.withState fun st => handleReadDiscrete st.callbacks.readDiscreteInputs

def handleReadHoldingRegisters : NmbsM σ NmbsError :=
  Program.withState fun st => handleReadRegisters st.callbacks.readHoldingRegisters

def handleReadInputRegisters : NmbsM σ NmbsError :=
  Program.withState fun st => handleReadRegisters st.callbacks.readInputRegisters

/-- The end of every write handler: the callback's verdict, then an echo of two words. -/
def answerWrite (err : NmbsError) (address word : UInt16) : NmbsM σ NmbsError := do
  if err ≠ .none then return ← sendExceptionMsg (callbackException err)
  putMsgHeader 4
  put2 address
  put2 word
  sendMsg

def handleWriteSingleCoil : NmbsM σ NmbsError := Program.withState fun st => do
  let err ← recv 4
  if err ≠ .none then return err
  let address ← get2
  let value ← get2
  match st.callbacks.writeSingleCoil with
  | some callback => do
      if value ≠ 0 ∧ value ≠ 0xFF00 then return ← sendExceptionMsg .illegalDataValue
      let err ← runCallback (callback address (value != 0))
      answerWrite err address value
  | none => sendExceptionMsg .illegalFunction

def handleWriteSingleRegister : NmbsM σ NmbsError := Program.withState fun st => do
  let err ← recv 4
  if err ≠ .none then return err
  let address ← get2
  let value ← get2
  match st.callbacks.writeSingleRegister with
  | some callback => do
      let err ← runCallback (callback address value)
      answerWrite err address value
  | none => sendExceptionMsg .illegalFunction

def handleWriteMultipleCoils : NmbsM σ NmbsError := Program.withState fun st => do
  let err ← recv 5
  if err ≠ .none then return err
  let address ← get2
  let quantity ← get2
  let coilsBytes ← get1
  if 246 < coilsBytes then return .invalidRequest
  let err ← recv coilsBytes.toNat
  if err ≠ .none then return err
  let coils ← getBytes (fun _ => 0) 0 coilsBytes.toNat
  if quantity < 1 ∨ 0x07B0 < quantity then return ← sendExceptionMsg .illegalDataValue
  if 0xFFFF + 1 < address.toNat + quantity.toNat then
    return ← sendExceptionMsg .illegalDataAddress
  if coilsBytes = 0 then return ← sendExceptionMsg .illegalDataValue
  if (quantity.toNat + 7) / 8 ≠ coilsBytes.toNat then
    return ← sendExceptionMsg .illegalDataValue
  match st.callbacks.writeMultipleCoils with
  | some callback => do
      let err ← runCallback (callback address quantity coils)
      answerWrite err address quantity
  | none => sendExceptionMsg .illegalFunction

def handleWriteMultipleRegisters : NmbsM σ NmbsError := Program.withState fun st => do
  let err ← recv 5
  if err ≠ .none then return err
  let address ← get2
  let quantity ← get2
  let registersBytes ← get1
  let err ← recv registersBytes.toNat
  if err ≠ .none then return err
  if 246 < registersBytes then return .invalidRequest
  let registers ← getRegisters (fun _ => 0) 0 (registersBytes.toNat / 2)
  if quantity < 1 ∨ 0x007B < quantity then return ← sendExceptionMsg .illegalDataValue
  if 0xFFFF + 1 < address.toNat + quantity.toNat then
    return ← sendExceptionMsg .illegalDataAddress
  if registersBytes = 0 then return ← sendExceptionMsg .illegalDataValue
  if registersBytes.toNat ≠ quantity.toNat * 2 then
    return ← sendExceptionMsg .illegalDataValue
  match st.callbacks.writeMultipleRegisters with
  | some callback => do
      let err ← runCallback (callback address quantity registers)
      answerWrite err address quantity
  | none => sendExceptionMsg .illegalFunction

structure Subrequest where
  referenceType : UInt8
  fileNumber : UInt16
  recordNumber : UInt16
  recordLength : UInt16

def getSubrequest : NmbsM σ Subrequest := do
  let referenceType ← get1
  let fileNumber ← get2
  let recordNumber ← get2
  let recordLength ← get2
  return ⟨referenceType, fileNumber, recordNumber, recordLength⟩

/-- The checks on a sub-request; only the longest record differs between the handlers. -/
def Subrequest.valid (subreq : Subrequest) (maxLength : UInt16) : Bool :=
  subreq.referenceType == 0x06 && subreq.fileNumber != 0x0000 &&
    subreq.recordNumber ≤ 0x270F && subreq.recordLength ≤ maxLength

def getSubrequests : Nat → NmbsM σ (List Subrequest)
  | 0 => return []
  | n + 1 => do
      let subreq ← getSubrequest
      let subreqs ← getSubrequests n
      return subreq :: subreqs

/-- `response_data_size`, a `uint8_t`. -/
def responseDataSize (subreqs : List Subrequest) : UInt8 :=
  UInt8.ofNat (subreqs.map fun subreq => 2 + subreq.recordLength.toNat * 2).sum

/-- `handle_read_file_record` up to the callback, which is null in this program. -/
def handleReadFileRecord : NmbsM σ NmbsError := do
  let err ← recv 1
  if err ≠ .none then return err
  let requestSize ← get1
  if 245 < requestSize then return .invalidRequest
  let err ← recv requestSize.toNat
  if err ≠ .none then return err
  let subreqs ← getSubrequests (requestSize.toNat / 7)
  discardN (requestSize.toNat % 7)
  if requestSize.toNat % 7 ≠ 0 then return ← sendExceptionMsg .illegalDataValue
  if requestSize < 0x07 ∨ 0xF5 < requestSize then return ← sendExceptionMsg .illegalDataValue
  if !subreqs.all (Subrequest.valid · 124) then
    return ← sendExceptionMsg .illegalDataAddress
  putMsgHeader (1 + (responseDataSize subreqs).toUInt16)
  put1 (responseDataSize subreqs)
  sendExceptionMsg .illegalFunction

/-- The first `do` loop of `handle_write_file_record`, with the 16-bit `size` it has left.
The result is the size at the end, or `none` for an invalid sub-request.  Each round
reads seven bytes further on, so `msgBufSize` rounds reach the end of the buffer. -/
def checkSubrequests : Nat → UInt16 → NmbsM σ (Option UInt16)
  | 0, _ => Program.halt .undefined
  | rounds + 1, size => do
      let subreq ← getSubrequest
      discardN (subreq.recordLength.toNat * 2 % 65536)
      if !subreq.valid 122 then return none
      let size := size - (7 + subreq.recordLength * 2)
      if 7 ≤ size then checkSubrequests rounds size
      else return some size

/-- `handle_write_file_record` up to the callback, which is null in this program. -/
def handleWriteFileRecord : NmbsM σ NmbsError := do
  let err ← recv 1
  if err ≠ .none then return err
  let requestSize ← get1
  if 251 < requestSize then return .invalidRequest
  let err ← recv requestSize.toNat
  if err ≠ .none then return err
  Program.withState fun st => do
    let msgBufIdx := st.msg.bufIdx
    discardN requestSize.toNat
    Program.modify fun st => st.seek msgBufIdx
    if requestSize < 7 then return ← sendExceptionMsg .illegalDataValue
    match ← checkSubrequests msgBufSize requestSize.toUInt16 with
    | none => sendExceptionMsg .illegalDataAddress
    | some size => do
        if size ≠ 0 then return ← sendExceptionMsg .illegalDataValue
        Program.modify fun st => st.seek msgBufIdx
        let subreq ← getSubrequest
        getRegs subreq.recordLength.toNat
        sendExceptionMsg .illegalFunction

def handleReadWriteRegisters : NmbsM σ NmbsError := Program.withState fun st => do
  let err ← recv 9
  if err ≠ .none then return err
  let readAddress ← get2
  let readQuantity ← get2
  let writeAddress ← get2
  let writeQuantity ← get2
  let byteCountWrite ← get1
  if 242 < byteCountWrite then return .invalidRequest
  let err ← recv byteCountWrite.toNat
  if err ≠ .none then return err
  let registers ← getRegisters (fun _ => 0) 0 (byteCountWrite.toNat / 2)
  if readQuantity < 1 ∨ 0x007D < readQuantity then
    return ← sendExceptionMsg .illegalDataValue
  if writeQuantity < 1 ∨ 0x007B < writeQuantity then
    return ← sendExceptionMsg .illegalDataValue
  if byteCountWrite.toNat ≠ writeQuantity.toNat * 2 then
    return ← sendExceptionMsg .illegalDataValue
  if 0xFFFF + 1 < readAddress.toNat + readQuantity.toNat then
    return ← sendExceptionMsg .illegalDataAddress
  if 0xFFFF + 1 < writeAddress.toNat + writeQuantity.toNat then
    return ← sendExceptionMsg .illegalDataAddress
  match st.callbacks.writeMultipleRegisters, st.callbacks.readHoldingRegisters with
  | some write, some read => do
      let err ← runCallback (write writeAddress writeQuantity registers)
      if err ≠ .none then return ← sendExceptionMsg (callbackException err)
      let (err, regs) ← runReadCallback read readAddress readQuantity (fun _ => 0)
      if err ≠ .none then return ← sendExceptionMsg (callbackException err)
      let regsBytes := readQuantity.toNat * 2
      putMsgHeader (UInt16.ofNat (1 + regsBytes))
      put1 (UInt8.ofNat regsBytes)
      putRegisters regs 0 readQuantity.toNat
      sendMsg
  | _, _ => sendExceptionMsg .illegalFunction

def handleReadDeviceIdentification : NmbsM σ NmbsError := do
  let err ← recv 3
  if err ≠ .none then return err
  let _ ← get1
  let _ ← get1
  let _ ← get1
  sendExceptionMsg .illegalFunction

def handleReqFc : NmbsM σ NmbsError := Program.withState fun st =>
  match st.msg.fc.toNat with
  | 1 => handleReadCoils
  | 2 => handleReadDiscreteInputs
  | 3 => handleReadHoldingRegisters
  | 4 => handleReadInputRegisters
  | 5 => handleWriteSingleCoil
  | 6 => handleWriteSingleRegister
  | 15 => handleWriteMultipleCoils
  | 16 => handleWriteMultipleRegisters
  | 20 => handleReadFileRecord
  | 21 => handleWriteFileRecord
  | 23 => handleReadWriteRegisters
  | 43 => handleReadDeviceIdentification
  | _ => do
      flush
      sendExceptionMsg .illegalFunction

/-- `nmbs_server_poll`; an idle read timeout is no error. -/
def nmbsServerPoll : NmbsM σ NmbsError := do
  msgStateReset
  let (err, firstByteReceived) ← recvMsgHeader
  if err ≠ .none then
    if !firstByteReceived ∧ err = .timeout then return .none
    return err
  let err ← handleReqFc
  if err ≠ .none then
    if err ≠ .timeout then flush
    return err
  return .none

end Handlers

end DriveSim
