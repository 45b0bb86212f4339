import DriveSim.Lib.TimedStream

/-!
# A connected socket under `tinycsocket.h`

The socket is described by what its peer will still do: the bytes to come with their
delays, and what becomes of the sends.  `recv` follows POSIX with `MSG_WAITALL`: the
socket option `SO_RCVTIMEO` limits the whole call, and the value 0 means no limit.  No
option limits `send`: a peer that does not read holds it up for as long as it likes.
-/

namespace DriveSim

open Lib

inductive TcsResult
  | success
  | again
  | inProgress
  | shutdown
  | errorUnknown
  | errorMemory
  | errorInvalidArgument
  | errorSystem
  | errorPermissionDenied
  | errorNotImplemented
  | errorNotSupported
  | errorAddressLookupFailed
  | errorConnectionRefused
  | errorNotConnected
  | errorSocketClosed
  | errorWouldBlock
  | errorTimedOut
  | errorTemporaryFailure
  | errorNetworkUnreachable
  | errorConnectionReset
  | errorAddressInUse
  | errorLibraryNotInitialized
  | errorIllFormedMessage
deriving DecidableEq, Repr

/-- How a send returns, and after how many milliseconds. -/
structure SendOutcome where
  result : TcsResult
  elapsed : Nat

/-- A connection, with the future its peer has in store for it. -/
structure Conn where
  incoming : TimedStream UInt8
  /-- `SO_RCVTIMEO` in milliseconds. -/
  rcvTimeo : Nat
  /-- Milliseconds since the connection was accepted. -/
  clock : Nat
  /-- The `tcs_send` calls to come; `none` is one that never returns. -/
  sends : Nat → Option SendOutcome
  /-- The messages sent, latest first. -/
  written : List (List UInt8)

/-- The result of `recv`: a number of bytes, or an `errno`. -/
inductive RecvStatus
  | received (count : Nat)
  | eagain
  | econnreset

namespace Conn

/-- A socket option of 0 sets no limit. -/
def limitOf (rcvTimeo : Nat) : Option Nat := if rcvTimeo = 0 then none else some rcvTimeo

def limit (conn : Conn) : Option Nat := limitOf conn.rcvTimeo

/-- What `recv` waits for: a call for no bytes at all waits once, until there is something
to receive. -/
def reception (conn : Conn) (count : Nat) : Reception UInt8 :=
  if count = 0 then conn.incoming.await conn.limit
  else TimedStream.receive conn.limit count conn.incoming

def after (conn : Conn) (r : Reception UInt8) : Conn :=
  { conn with incoming := r.rest, clock := conn.clock + r.elapsed }

/-- The connection when a send is over.  Time has passed for the incoming bytes, too. -/
def sent (conn : Conn) (o : SendOutcome) (bytes : List UInt8) : Conn :=
  { conn with
    incoming := conn.incoming.elapse o.elapsed
    clock := conn.clock + o.elapsed
    sends := fun i => conn.sends (i + 1)
    written := if o.result = .success then bytes :: conn.written else conn.written }

def Sends (conn : Conn) : Prop := (conn.sends 0).map SendOutcome.result = some .success

def SendBlocks (conn : Conn) : Prop := conn.sends 0 = none

instance (conn : Conn) : Decidable conn.Sends := inferInstanceAs (Decidable (_ = _))

end Conn

/-- `recv(fd, buf, count, MSG_WAITALL)`; `none` is a call that never returns.  Bytes that
arrived before a timeout or an end are returned first.  A call for no bytes returns 0
whatever it has waited for, unless the connection had been reset before it. -/
def posixRecv (conn : Conn) (count : Nat) : Option (RecvStatus × List UInt8 × Conn) :=
  let r := conn.reception count
  let next := conn.after r
  match r.cause with
  | .blocked => none
  | .complete => some (.received r.got.length, r.got, next)
  | .timedOut =>
      some (if r.got = [] ∧ 0 < count then .eagain else .received r.got.length, r.got, next)
  | .ended true => some (.received r.got.length, r.got, next)
  | .ended false =>
      some (if r.got = [] ∧ (0 < count ∨ r.elapsed = 0) then .econnreset
        else .received r.got.length, r.got, next)

/-- `tcs_receive` on a blocking stream socket. -/
def tcsReceive (conn : Conn) (count : Nat) : Option (TcsResult × List UInt8 × Conn) :=
  (posixRecv conn count).map fun (status, bytes, next) =>
    match status with
    | .received 0 => (.shutdown, [], next)
    | .received _ => (.success, bytes, next)
    | .eagain => (.errorTimedOut, [], next)
    | .econnreset => (.errorConnectionReset, [], next)

def tcsOptReceiveTimeoutSet (conn : Conn) (timeoutMs : Int) : TcsResult × Conn :=
  if timeoutMs < 0 then (.errorInvalidArgument, conn)
  else (.success, { conn with rcvTimeo := timeoutMs.toNat })

/-- `tcs_send` with `TCS_MSG_SENDALL`: the whole message or an error, if it returns. -/
def tcsSend (conn : Conn) (bytes : List UInt8) : Option (TcsResult × Conn) :=
  (conn.sends 0).map fun o => (o.result, conn.sent o bytes)

/-! ## The transport callbacks of `ModbusTcp.c` -/

structure ReadResult where
  value : Int
  bytes : List UInt8
  conn : Conn

/-- `modbus_transport_read`; `none` is a call that never returns. -/
def modbusTransportRead (conn : Conn) (count : Nat) (byteTimeoutMs : Int) : Option ReadResult :=
  let (timeoutResult, conn) :=
    if 0 ≤ byteTimeoutMs then tcsOptReceiveTimeoutSet conn byteTimeoutMs else (.success, conn)
  if timeoutResult ≠ .success then some ⟨-1, [], conn⟩
  else
    (tcsReceive conn count).map fun (result, bytes, conn) =>
      if result = .success then ⟨bytes.length, bytes, conn⟩
      else if result = .errorTimedOut then ⟨bytes.length, bytes, conn⟩
      else ⟨-1, bytes, conn⟩

def modbusTransportWrite (conn : Conn) (bytes : List UInt8) : Option (Int × Conn) :=
  (tcsSend conn bytes).map fun (result, conn) =>
    if result ≠ .success then (-1, conn) else (bytes.length, conn)

/-! ## One read, by the reception behind it -/

/-- The value of `SO_RCVTIMEO` a read works with: a negative timeout keeps the old one. -/
def rcvTimeoFor (rcvTimeo : Nat) (byteTimeoutMs : Int) : Nat :=
  if 0 ≤ byteTimeoutMs then byteTimeoutMs.toNat else rcvTimeo

def Conn.withTimeout (conn : Conn) (byteTimeoutMs : Int) : Conn :=
  { conn with rcvTimeo := rcvTimeoFor conn.rcvTimeo byteTimeoutMs }

/-- The number `modbus_transport_read` makes of a reception of `count` bytes: bytes count,
an empty timeout is 0, and anything else without bytes is an error, also when no bytes
were asked for. -/
def readValue (count : Nat) (r : Reception UInt8) : Int :=
  if r.got = [] ∧ (count = 0 ∨ r.cause ≠ .timedOut) then -1 else r.got.length

theorem modbusTransportRead_eq (conn : Conn) (count : Nat) (byteTimeoutMs : Int) :
    modbusTransportRead conn count byteTimeoutMs =
      let r := (conn.withTimeout byteTimeoutMs).reception count
      if r.cause = .blocked then none
      else some ⟨readValue count r, r.got, (conn.withTimeout byteTimeoutMs).after r⟩ := by
  have hset : (if 0 ≤ byteTimeoutMs then tcsOptReceiveTimeoutSet conn byteTimeoutMs
      else (.success, conn)) = (.success, conn.withTimeout byteTimeoutMs) := by
    by_cases h : 0 ≤ byteTimeoutMs
    · rw [if_pos h, tcsOptReceiveTimeoutSet, if_neg h.not_gt, Conn.withTimeout, rcvTimeoFor,
        if_pos h]
    · rw [if_neg h, Conn.withTimeout, rcvTimeoFor, if_neg h]
  simp only [modbusTransportRead, hset, ne_eq, not_true_eq_false, if_false, tcsReceive, posixRecv]
  obtain ⟨got, elapsed, cause, rest⟩ := (conn.withTimeout byteTimeoutMs).reception count
  cases got with
  | nil =>
      cases cause with
      | complete => simp [readValue]
      | timedOut =>
          by_cases hcount : count = 0 <;> simp [readValue, hcount, Nat.pos_iff_ne_zero]
      | blocked => rfl
      | ended orderly =>
          cases orderly with
          | true => simp [readValue]
          | false => by_cases hreset : 0 < count ∨ elapsed = 0 <;> simp [readValue, hreset]
  | cons x got =>
      cases cause with
      | complete => simp [readValue]
      | timedOut => simp [readValue]
      | blocked => rfl
      | ended orderly => cases orderly <;> simp [readValue]

/-! ## One write, by the send behind it -/

theorem modbusTransportWrite_eq (conn : Conn) (bytes : List UInt8) :
    modbusTransportWrite conn bytes = (conn.sends 0).map fun o =>
      (if o.result = .success then (bytes.length : Int) else -1, conn.sent o bytes) := by
  rw [modbusTransportWrite, tcsSend, Option.map_map]
  congr 1
  ext o : 1
  by_cases hsent : o.result = .success <;> simp [hsent]

theorem Conn.sends_congr {conn conn' : Conn} (h : conn.sends = conn'.sends) :
    conn.Sends ↔ conn'.Sends := by
  rw [Conn.Sends, Conn.Sends, h]

theorem Conn.Sends.not_sendBlocks {conn : Conn} (h : conn.Sends) : ¬ conn.SendBlocks := by
  intro hnone
  rw [Conn.Sends, hnone] at h
  exact Option.some_ne_none _ h.symm

theorem Conn.sends_iff {conn : Conn} {o : SendOutcome} (h : conn.sends 0 = some o) :
    conn.Sends ↔ o.result = .success := by
  rw [Conn.Sends, h, Option.map_some, Option.some.injEq]

end DriveSim
