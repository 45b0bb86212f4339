import DriveSim.Lib.Program
import DriveSim.Nmbs.Interface
import DriveSim.Transport.Socket

/-!
# The server side of `nanomodbus.c`: messages

The message buffer and everything that moves bytes in and out of it, for the TCP
transport.  The branches for RTU are left out, and with them the broadcast and ignored
flags, which stay false over TCP.
-/

namespace DriveSim

open Lib

def msgBufSize : Nat := 260

/-- `nmbs->msg`. -/
structure NmbsMsg where
  buf : Cells UInt8
  bufIdx : Nat
  unitId : UInt8
  fc : UInt8
  transactionId : UInt16
  complete : Bool

/-- `nmbs_t`.  The socket behind `platform.arg` and the user data behind `callbacks.arg`
are part of the state. -/
structure Nmbs (σ : Type*) where
  msg : NmbsMsg
  byteTimeoutMs : Int
  readTimeoutMs : Int
  callbacks : NmbsCallbacks σ
  arg : σ
  conn : Conn

abbrev NmbsM (σ : Type*) := Program (Nmbs σ)

/-- `nmbs_error_is_exception`, and the exception for any other error of a callback. -/
def callbackException (err : NmbsError) : NmbsError :=
  if err.isException then err else .serverDeviceFailure

namespace Nmbs

variable {σ : Type*}

def seek (st : Nmbs σ) (n : Nat) : Nmbs σ := { st with msg := { st.msg with bufIdx := n } }

def setBuf (st : Nmbs σ) (buf : Cells UInt8) : Nmbs σ :=
  { st with msg := { st.msg with buf := buf } }

def setFc (st : Nmbs σ) (fc : UInt8) : Nmbs σ := { st with msg := { st.msg with fc := fc } }

def setConn (st : Nmbs σ) (conn : Conn) : Nmbs σ := { st with conn := conn }

/-- `nmbs_create` and `nmbs_server_create`.  With the TCP transport, both transport
functions and an initialized callback table they cannot fail. -/
def serverCreate (callbacks : NmbsCallbacks σ) (arg : σ) (conn : Conn) : Nmbs σ where
  msg := ⟨fun _ => 0, 0, 0, 0, 0, false⟩
  byteTimeoutMs := -1
  readTimeoutMs := -1
  callbacks := callbacks
  arg := arg
  conn := conn

def setReadTimeout (st : Nmbs σ) (timeoutMs : Int) : Nmbs σ :=
  { st with readTimeoutMs := timeoutMs }

def setByteTimeout (st : Nmbs σ) (timeoutMs : Int) : Nmbs σ :=
  { st with byteTimeoutMs := timeoutMs }

def setArg (st : Nmbs σ) (arg : σ) : Nmbs σ := { st with arg := arg }

end Nmbs

/-! ## The message buffer

An access outside the buffer is undefined. -/

section Buffer

variable {σ : Type*}

def get1 : NmbsM σ UInt8 := fun st =>
  if st.msg.bufIdx < msgBufSize then
    .ok (st.msg.buf st.msg.bufIdx, st.seek (st.msg.bufIdx + 1))
  else .error .undefined

def put1 (data : UInt8) : NmbsM σ Unit := fun st =>
  if st.msg.bufIdx < msgBufSize then
    .ok ((), (st.setBuf (st.msg.buf.set st.msg.bufIdx data)).seek (st.msg.bufIdx + 1))
  else .error .undefined

/-- `discard_n`; the index is a `uint16_t`. -/
def discardN (n : Nat) : NmbsM σ Unit :=
  Program.modify fun st => st.seek ((st.msg.bufIdx + n) % 65536)

def word (hi lo : UInt8) : UInt16 := hi.toUInt16 <<< 8 ||| lo.toUInt16

def get2 : NmbsM σ UInt16 := do
  let hi ← get1
  let lo ← get1
  return word hi lo

def put2 (data : UInt16) : NmbsM σ Unit := do
  put1 (data >>> 8).toUInt8
  put1 data.toUInt8

/-- `for (i = 0; i < n; i++) cells[i] = get_1(nmbs)`, from iteration `i` on. -/
def getBytes (cells : Cells UInt8) (i : Nat) : Nat → NmbsM σ (Cells UInt8)
  | 0 => return cells
  | n + 1 => do
      let byte ← get1
      getBytes (cells.set i byte) (i + 1) n

def getRegisters (cells : Cells UInt16) (i : Nat) : Nat → NmbsM σ (Cells UInt16)
  | 0 => return cells
  | n + 1 => do
      let register ← get2
      getRegisters (cells.set i register) (i + 1) n

/-- `for (i = 0; i < n; i++) put_1(nmbs, cells[i])`, from iteration `i` on. -/
def putBytes (cells : Cells UInt8) (i : Nat) : Nat → NmbsM σ Unit
  | 0 => return ()
  | n + 1 => do
      put1 (cells i)
      putBytes cells (i + 1) n

def putRegisters (cells : Cells UInt16) (i : Nat) : Nat → NmbsM σ Unit
  | 0 => return ()
  | n + 1 => do
      put2 (cells i)
      putRegisters cells (i + 1) n

/-- The byte swap of `get_regs`: `n` registers in place, from the buffer index on. -/
def swappedRegisters (buf : Cells UInt8) (start n : Nat) : Cells UInt8 := fun i =>
  if start ≤ i ∧ i < start + 2 * n then
    if (i - start) % 2 = 0 then buf (i + 1) else buf (i - 1)
  else buf i

def getRegs (n : Nat) : NmbsM σ Unit := fun st =>
  if msgBufSize < st.msg.bufIdx + 2 * n then .error .undefined
  else .ok ((), (st.setBuf (swappedRegisters st.msg.buf st.msg.bufIdx n)).seek
    ((st.msg.bufIdx + 2 * n) % 65536))

end Buffer

/-! ## The transport -/

section Transport

variable {σ : Type*}

/-- The error `recv` and `send` make of a platform return value. -/
def transportError (value : Int) (count : Nat) : NmbsError :=
  if value = count then .none
  else if value < count then
    if value < 0 then .transport else .timeout
  else .transport

def storeAt (buf : Cells UInt8) (start : Nat) (bytes : List UInt8) : Cells UInt8 := fun i =>
  if start ≤ i ∧ i < start + bytes.length then bytes.getD (i - start) 0 else buf i

def recv (count : Nat) : NmbsM σ NmbsError := fun st =>
  if st.msg.complete then .ok (.none, st)
  else
    match modbusTransportRead st.conn count st.byteTimeoutMs with
    | none => .error .running
    | some result =>
        if msgBufSize < st.msg.bufIdx + result.bytes.length then .error .undefined
        else .ok (transportError result.value count,
          (st.setConn result.conn).setBuf (storeAt st.msg.buf st.msg.bufIdx result.bytes))

def messageBytes (buf : Cells UInt8) (count : Nat) : List UInt8 := (List.range count).map buf

def send (count : Nat) : NmbsM σ NmbsError := fun st =>
  if msgBufSize < count then .error .undefined
  else
    match modbusTransportWrite st.conn (messageBytes st.msg.buf count) with
    | none => .error .running
    | some (value, conn) => .ok (transportError value count, st.setConn conn)

/-- The default `flush`: whatever the read returns is dropped. -/
def flush : NmbsM σ Unit := fun st =>
  match modbusTransportRead st.conn msgBufSize 0 with
  | none => .error .running
  | some result =>
      .ok ((), (st.setConn result.conn).setBuf (storeAt st.msg.buf 0 result.bytes))

def msgBufReset : NmbsM σ Unit := Program.modify fun st => st.seek 0

def msgStateReset : NmbsM σ Unit := Program.modify fun st =>
  { st with msg := ⟨st.msg.buf, 0, 0, 0, 0, false⟩ }

/-- `recv_msg_header` for TCP; the flag is `first_byte_received`.  The byte timeout is
restored before the first error is looked at, and the buffer index stays behind the
header when the rest of the message has been received. -/
def recvMsgHeader : NmbsM σ (NmbsError × Bool) := Program.withState fun start => do
  let oldByteTimeout := start.byteTimeoutMs
  Program.modify fun st => st.setByteTimeout st.readTimeoutMs
  msgStateReset
  let err ← recv 1
  Program.modify fun st => st.setByteTimeout oldByteTimeout
  if err ≠ .none then return (err, false)
  discardN 1
  let err ← recv 7
  if err ≠ .none then return (err, true)
  msgBufReset
  let transactionId ← get2
  let protocolId ← get2
  let length ← get2
  let unitId ← get1
  let fc ← get1
  Program.modify fun st =>
    { st with msg := { st.msg with transactionId := transactionId, unitId := unitId, fc := fc } }
  if length < 2 ∨ 255 < length then return (.invalidTcpMbap, true)
  let err ← recv (length.toNat - 2)
  if err ≠ .none then return (err, true)
  if protocolId ≠ 0 then return (.invalidTcpMbap, true)
  Program.modify fun st => { st with msg := { st.msg with complete := true } }
  return (.none, true)

def putMsgHeader (dataLength : UInt16) : NmbsM σ Unit := do
  msgBufReset
  Program.withState fun st => do
    put2 st.msg.transactionId
    put2 0
    put2 (1 + 1 + dataLength)
    put1 st.msg.unitId
    put1 st.msg.fc

def sendMsg : NmbsM σ NmbsError := Program.withState fun st => send st.msg.bufIdx

def sendExceptionMsg (exception : NmbsError) : NmbsM σ NmbsError := do
  Program.modify fun st => st.setFc (st.msg.fc + 0x80)
  putMsgHeader 1
  put1 (UInt8.ofNat exception.code.toNat)
  sendMsg

end Transport

end DriveSim
