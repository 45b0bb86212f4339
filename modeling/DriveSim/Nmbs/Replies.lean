import DriveSim.Nmbs.Dispatch
import DriveSim.Nmbs.Frames

/-!
# The answer to a message

What becomes of a message is a function of the message and the user data: it is refused
without an answer, or answered by an exception or by data.  Every handler computes this
function, and sends exactly the bytes it gives.
-/

namespace DriveSim

open Lib Program Nmbs

variable {σ : Type*}

inductive Reply
  | silent
  | exception (code : NmbsError)
  | data (bytes : List UInt8)

def Reply.answer (msg : NmbsMsg) : Reply → Option (List UInt8)
  | .silent => none
  | .exception e =>
      some (frame msg.transactionId msg.unitId (msg.fc + 0x80) [UInt8.ofNat e.code.toNat])
  | .data bytes => some (frame msg.transactionId msg.unitId msg.fc bytes)

def Reply.ofVerdict (err : NmbsError) (data : List UInt8) : Reply :=
  if err ≠ .none then .exception (callbackException err) else .data data

namespace Nmbs

variable (st : Nmbs σ)

def checkedReply (limit : UInt16) (reply : Reply × σ) : Reply × σ :=
  if st.wordAt 10 < 1 ∨ limit < st.wordAt 10 then (.exception .illegalDataValue, st.arg)
  else if 0xFFFF + 1 < (st.wordAt 8).toNat + (st.wordAt 10).toNat then
    (.exception .illegalDataAddress, st.arg)
  else reply

def readReply {α : Type} (callback : UInt16 → UInt16 → Cells α → UInt8 → σ →
    NmbsError × Cells α × σ) (zero : α) (data : Cells α → List UInt8) : Reply × σ :=
  let (err, out, arg) := callback (st.wordAt 8) (st.wordAt 10) (fun _ => zero) st.msg.unitId st.arg
  (.ofVerdict err (data out), arg)

def readDiscreteReply (callback : Option (ReadBits σ)) : Reply × σ :=
  let bytes := ((st.wordAt 10).toNat + 7) / 8
  st.checkedReply 2000 <| match callback with
    | some callback =>
        st.readReply callback 0 fun bits => UInt8.ofNat bytes :: cellBytes bits 0 bytes
    | none => (.exception .illegalFunction, st.arg)

def registersData (quantity : UInt16) (regs : Cells UInt16) : List UInt8 :=
  UInt8.ofNat (quantity.toNat * 2) :: registerBytes regs 0 quantity.toNat

def readRegistersReply (callback : Option (ReadRegisters σ)) : Reply × σ :=
  st.checkedReply 125 <| match callback with
    | some callback => st.readReply callback 0 (registersData (st.wordAt 10))
    | none => (.exception .illegalFunction, st.arg)

def writeReply (verdict : NmbsError × σ) : Reply × σ :=
  (.ofVerdict verdict.1 (wordBytes (st.wordAt 8) ++ wordBytes (st.wordAt 10)), verdict.2)

def writeSingleCoilReply : Reply × σ :=
  match st.callbacks.writeSingleCoil with
  | some callback =>
      if st.wordAt 10 ≠ 0 ∧ st.wordAt 10 ≠ 0xFF00 then (.exception .illegalDataValue, st.arg)
      else st.writeReply (callback (st.wordAt 8) (st.wordAt 10 != 0) st.msg.unitId st.arg)
  | none => (.exception .illegalFunction, st.arg)

def writeSingleRegisterReply : Reply × σ :=
  match st.callbacks.writeSingleRegister with
  | some callback => st.writeReply (callback (st.wordAt 8) (st.wordAt 10) st.msg.unitId st.arg)
  | none => (.exception .illegalFunction, st.arg)

def writeMultipleCoilsReply : Reply × σ :=
  let count := (st.msg.buf 12).toNat
  if 246 < st.msg.buf 12 then (.silent, st.arg)
  else st.checkedReply 0x07B0 <|
    if st.msg.buf 12 = 0 then (.exception .illegalDataValue, st.arg)
    else if ((st.wordAt 10).toNat + 7) / 8 ≠ count then (.exception .illegalDataValue, st.arg)
    else match st.callbacks.writeMultipleCoils with
      | some callback => st.writeReply
          (callback (st.wordAt 8) (st.wordAt 10) (st.bytesAt 13 count) st.msg.unitId st.arg)
      | none => (.exception .illegalFunction, st.arg)

def writeMultipleRegistersReply : Reply × σ :=
  let count := (st.msg.buf 12).toNat
  if 246 < st.msg.buf 12 then (.silent, st.arg)
  else st.checkedReply 0x007B <|
    if st.msg.buf 12 = 0 then (.exception .illegalDataValue, st.arg)
    else if count ≠ (st.wordAt 10).toNat * 2 then (.exception .illegalDataValue, st.arg)
    else match st.callbacks.writeMultipleRegisters with
      | some callback => st.writeReply
          (callback (st.wordAt 8) (st.wordAt 10) (st.wordsAt 13 (count / 2)) st.msg.unitId st.arg)
      | none => (.exception .illegalFunction, st.arg)

def subrequestsAt (n : Nat) : Nat → List Subrequest
  | 0 => []
  | count + 1 => st.subrequestAt n :: subrequestsAt (n + 7) count

def readFileRecordReply : Reply × σ :=
  let size := (st.msg.buf 8).toNat
  if 245 < st.msg.buf 8 then (.silent, st.arg)
  else if size % 7 ≠ 0 then (.exception .illegalDataValue, st.arg)
  else if st.msg.buf 8 < 0x07 ∨ 0xF5 < st.msg.buf 8 then (.exception .illegalDataValue, st.arg)
  else if !(st.subrequestsAt 9 (size / 7)).all (Subrequest.valid · 124) then
    (.exception .illegalDataAddress, st.arg)
  else (.exception .illegalFunction, st.arg)

/-- The size the scan of a write file record request ends with, unless one of its
sub-requests is invalid. -/
def scanSubrequests : Nat → Nat → UInt16 → Option UInt16
  | 0, _, _ => none
  | rounds + 1, n, size =>
      let subreq := st.subrequestAt n
      let left := size - (7 + subreq.recordLength * 2)
      if !subreq.valid 122 then none
      else if 7 ≤ left then
        scanSubrequests rounds ((n + 7 + subreq.recordLength.toNat * 2 % 65536) % 65536) left
      else some left

def writeFileRecordReply : Reply × σ :=
  if 251 < st.msg.buf 8 then (.silent, st.arg)
  else if st.msg.buf 8 < 7 then (.exception .illegalDataValue, st.arg)
  else match st.scanSubrequests msgBufSize 9 (st.msg.buf 8).toUInt16 with
    | none => (.exception .illegalDataAddress, st.arg)
    | some size =>
        if size ≠ 0 then (.exception .illegalDataValue, st.arg)
        else (.exception .illegalFunction, st.arg)

/-- The write comes first, and the read sees what it has done. -/
def readWriteReply : Reply × σ :=
  let count := (st.msg.buf 16).toNat
  if 242 < st.msg.buf 16 then (.silent, st.arg)
  else if st.wordAt 10 < 1 ∨ 0x007D < st.wordAt 10 then (.exception .illegalDataValue, st.arg)
  else if st.wordAt 14 < 1 ∨ 0x007B < st.wordAt 14 then (.exception .illegalDataValue, st.arg)
  else if count ≠ (st.wordAt 14).toNat * 2 then (.exception .illegalDataValue, st.arg)
  else if 0xFFFF + 1 < (st.wordAt 8).toNat + (st.wordAt 10).toNat then
    (.exception .illegalDataAddress, st.arg)
  else if 0xFFFF + 1 < (st.wordAt 12).toNat + (st.wordAt 14).toNat then
    (.exception .illegalDataAddress, st.arg)
  else match st.callbacks.writeMultipleRegisters, st.callbacks.readHoldingRegisters with
    | some write, some read =>
        let (err, arg) := write (st.wordAt 12) (st.wordAt 14) (st.wordsAt 17 (count / 2))
          st.msg.unitId st.arg
        if err ≠ .none then (.exception (callbackException err), arg)
        else (st.setArg arg).readReply read 0 (registersData (st.wordAt 10))
    | _, _ => (.exception .illegalFunction, st.arg)

def replyFor (fc : Nat) : Reply × σ :=
  match fc with
  | 1 => st.readDiscreteReply st.callbacks.readCoils
  | 2 => st.readDiscreteReply st.callbacks.readDiscreteInputs
  | 3 => st.readRegistersReply st.callbacks.readHoldingRegisters
  | 4 => st.readRegistersReply st.callbacks.readInputRegisters
  | 5 => st.writeSingleCoilReply
  | 6 => st.writeSingleRegisterReply
  | 15 => st.writeMultipleCoilsReply
  | 16 => st.writeMultipleRegistersReply
  | 20 => st.readFileRecordReply
  | 21 => st.writeFileRecordReply
  | 23 => st.readWriteReply
  | _ => (.exception .illegalFunction, st.arg)

def reply : Reply × σ := st.replyFor st.msg.fc.toNat

end Nmbs

def Answered (st : Nmbs σ) (outcome : Reply × σ) (err : NmbsError) (st' : Nmbs σ) : Prop :=
  match outcome.1.answer st.msg with
  | none => err = .invalidRequest ∧ Framed (st.setArg outcome.2) st'
  | some bytes => Sent (st.setArg outcome.2) bytes err st'

section Handlers

variable {H : Halt → Prop} {st : Nmbs σ} {n : Nat}

theorem framed_own (st : Nmbs σ) (n : Nat) : Framed (st.setArg st.arg) (st.seek n) :=
  framed_seek st n

theorem wp_putRegisters_data (regs : Cells UInt16) {count : Nat} (hfit : 9 + count * 2 ≤ msgBufSize)
    {start st' : Nmbs σ} {before : List UInt8} (hbefore : before.length = 9)
    (h : Assembled start before st') :
    Wp H (putRegisters regs 0 count)
      (fun _ st'' => Assembled start (before ++ registerBytes regs 0 count) st'') st' :=
  wp_putRegisters_assembled regs 0 count h (by omega)

/-- A read callback, on user data another one may have left, and the answer made of what
it filled in. -/
theorem wp_runReadCallback_on {α : Type} (callback : UInt16 → UInt16 → Cells α → UInt8 → σ →
    NmbsError × Cells α × σ) (zero : α) (arg : σ) {data : Cells α → List UInt8}
    {f : NmbsError × Cells α → NmbsM σ NmbsError}
    (h : ∀ err out arg, Wp H (f (err, out)) (Answered st (.ofVerdict err (data out), arg))
      ((st.setArg arg).seek n)) :
    Wp H (runReadCallback callback (st.wordAt 8) (st.wordAt 10) (fun _ => zero) >>= f)
      (Answered st ((st.setArg arg).readReply callback zero data)) ((st.setArg arg).seek n) := by
  rw [wp_runReadCallback]
  exact h _ _ _

theorem wp_runReadCallback_then {α : Type} (callback : UInt16 → UInt16 → Cells α → UInt8 → σ →
    NmbsError × Cells α × σ) (zero : α) {data : Cells α → List UInt8}
    {f : NmbsError × Cells α → NmbsM σ NmbsError}
    (h : ∀ err out arg, Wp H (f (err, out)) (Answered st (.ofVerdict err (data out), arg))
      ((st.setArg arg).seek n)) :
    Wp H (runReadCallback callback (st.wordAt 8) (st.wordAt 10) (fun _ => zero) >>= f)
      (Answered st (st.readReply callback zero data)) (st.seek n) :=
  wp_runReadCallback_on callback zero st.arg h

theorem wp_getSubrequests_at (count : Nat) (hn : n + 7 * count ≤ msgBufSize)
    (Q : List Subrequest → Nmbs σ → Prop) :
    Wp H (getSubrequests count) Q (st.seek n) ↔
      Q (st.subrequestsAt n count) (st.seek (n + 7 * count)) := by
  induction count generalizing n Q with
  | zero => rfl
  | succ count ih =>
      have hindex : n + 7 + 7 * count = n + 7 * (count + 1) := by omega
      rw [getSubrequests, wp_bind, wp_getSubrequest (by omega), wp_bind, ih (by omega), hindex,
        wp_pure]
      rfl

/-- Either the scan stays inside the buffer and finds what `scanSubrequests` finds, or it
leaves the buffer. -/
theorem wp_checkSubrequests_at (rounds : Nat) (size : UInt16)
    (hfit : st.subrequestsFit rounds n size = false → H .undefined)
    {Q : Option UInt16 → Nmbs σ → Prop}
    (hQ : ∀ n', Q (st.scanSubrequests rounds n size) (st.seek n')) :
    Wp H (checkSubrequests rounds size) Q (st.seek n) := by
  induction rounds generalizing n size with
  | zero => exact hfit rfl
  | succ rounds ih =>
      by_cases hn : n + 7 ≤ msgBufSize
      · simp only [scanSubrequests] at hQ
        rw [checkSubrequests, wp_bind, wp_getSubrequest (by omega), wp_bind, wp_discardN]
        split_ifs at hQ ⊢ with hsubreq hleft
        · exact hQ _
        · dsimp only
          rw [if_pos hleft]
          apply ih _ _ hQ
          intro hrest
          have hleft' : ¬ size - (7 + (st.subrequestAt n).recordLength * 2) < 7 :=
            UInt16.not_lt.mpr hleft
          have hvalid : (st.subrequestAt n).valid 122 = true := by simpa using hsubreq
          apply hfit
          simp only [Nmbs.subrequestsFit, hvalid, hleft', hrest, decide_false, Bool.not_true,
            Bool.or_false, Bool.and_false]
        · dsimp only
          rw [if_neg hleft]
          exact hQ _
      · have hundefined : H .undefined := hfit (by simp [Nmbs.subrequestsFit, hn])
        rw [checkSubrequests, wp_bind]
        exact wp_getSubrequest_of_undefined hundefined (by omega) _

theorem wp_getRegs_at {count : Nat} (hn : n + 2 * count ≤ msgBufSize)
    {Q : Unit → Nmbs σ → Prop} (hQ : ∀ buf n', Q () ((st.setBuf buf).seek n')) :
    Wp H (getRegs count) Q (st.seek n) := by
  have hrun : getRegs count (st.seek n) = .ok ((), (st.setBuf
      (swappedRegisters st.msg.buf n count)).seek ((n + 2 * count) % 65536)) :=
    if_neg (Nat.not_lt.mpr hn)
  rw [wp_of_eq hrun]
  exact hQ _ _

theorem valid_of_scanSubrequests {rounds : Nat} {size left : UInt16}
    (h : st.scanSubrequests rounds n size = some left) : (st.subrequestAt n).valid 122 = true := by
  cases rounds with
  | zero => exact absurd h (Option.some_ne_none _).symm
  | succ rounds =>
      by_contra hinvalid
      rw [scanSubrequests] at h
      simp [hinvalid] at h

section Sending

variable (hblocks : st.conn.SendBlocks → H .running)
include hblocks

theorem wp_exception (exception : NmbsError) (arg : σ) :
    Wp H (sendExceptionMsg exception) (Answered st (.exception exception, arg))
      ((st.setArg arg).seek n) :=
  wp_sendExceptionMsg_sent (framed_seek (st.setArg arg) n) rfl rfl rfl exception hblocks

theorem wp_ownException (exception : NmbsError) :
    Wp H (sendExceptionMsg exception) (Answered st (.exception exception, st.arg)) (st.seek n) :=
  wp_exception hblocks exception st.arg

/-- The verdict of a callback: an exception, or the answer put together by `put`. -/
theorem wp_verdict (err : NmbsError) (arg : σ) (data : List UInt8) {put : NmbsM σ NmbsError}
    (hput : err = .none → Wp H put (Sent (st.setArg arg)
      (frame st.msg.transactionId st.msg.unitId st.msg.fc data)) ((st.setArg arg).seek n)) :
    Wp H (do
      if err ≠ .none then return ← sendExceptionMsg (callbackException err)
      put) (Answered st (.ofVerdict err data, arg)) ((st.setArg arg).seek n) := by
  rw [Reply.ofVerdict]
  split_ifs with herr
  · exact wp_exception hblocks _ arg
  · exact hput (not_not.mp herr)

theorem wp_answerWrite_answered (err : NmbsError) (arg : σ) (address word : UInt16) :
    Wp H (answerWrite err address word)
      (Answered st (.ofVerdict err (wordBytes address ++ wordBytes word), arg))
      ((st.setArg arg).seek n) := by
  apply wp_verdict hblocks
  intro _
  rw [wp_bind]
  apply wp_mono (wp_putMsgHeader_assembled (framed_seek (st.setArg arg) n) rfl rfl rfl 4)
  intro _ st₁ h₁
  rw [wp_bind]
  apply wp_mono (wp_put2_assembled h₁ (Nat.le_of_ble_eq_true rfl) _)
  intro _ st₂ h₂
  rw [wp_bind]
  apply wp_mono (wp_put2_assembled h₂ (Nat.le_of_ble_eq_true rfl) _)
  intro _ st₃ h₃
  rw [List.append_assoc] at h₃
  exact wp_sendMsg_assembled h₃ (Nat.le_of_ble_eq_true rfl) hblocks

theorem wp_answerData_answered (err : NmbsError) (arg : σ) {data : List UInt8} {bytes : Nat}
    (hlength : data.length = bytes) (hfit : 9 + bytes ≤ msgBufSize) {put : NmbsM σ Unit}
    (hput : ∀ {start st' : Nmbs σ} {before : List UInt8}, before.length = 9 →
      Assembled start before st' →
        Wp H put (fun _ st'' => Assembled start (before ++ data) st'') st') :
    Wp H (do
      if err ≠ .none then return ← sendExceptionMsg (callbackException err)
      putMsgHeader (UInt16.ofNat (1 + bytes))
      put1 (UInt8.ofNat bytes)
      put
      sendMsg) (Answered st (.ofVerdict err (UInt8.ofNat bytes :: data), arg))
      ((st.setArg arg).seek n) := by
  apply wp_verdict hblocks
  intro _
  have hheader : (UInt8.ofNat bytes :: data).length = 1 + bytes := by
    rw [List.length_cons, hlength, Nat.add_comm]
  rw [wp_bind]
  apply wp_mono (wp_putMsgHeader_assembled (framed_seek (st.setArg arg) n) rfl rfl rfl _)
  intro _ st₁ h₁
  rw [wp_bind]
  apply wp_mono (wp_put1_assembled h₁ (Nat.le_of_ble_eq_true rfl) _)
  intro _ st₂ h₂
  rw [wp_bind]
  apply wp_mono (hput rfl h₂)
  intro _ st₃ h₃
  rw [List.append_assoc, ← hheader] at h₃
  refine wp_sendMsg_assembled h₃ ?_ hblocks
  rw [length_frame, hheader]
  omega

theorem wp_checkedReply {limit : UInt16} {outcome : Reply × σ} {rest : NmbsM σ NmbsError}
    (hrest : st.wordAt 10 ≤ limit → Wp H rest (Answered st outcome) (st.seek n)) :
    Wp H (do
      if st.wordAt 10 < 1 ∨ limit < st.wordAt 10 then
        return ← sendExceptionMsg .illegalDataValue
      if 0xFFFF + 1 < (st.wordAt 8).toNat + (st.wordAt 10).toNat then
        return ← sendExceptionMsg .illegalDataAddress
      rest) (Answered st (st.checkedReply limit outcome)) (st.seek n) := by
  rw [checkedReply]
  split_ifs with hquantity hrange
  · exact wp_ownException hblocks _
  · exact wp_ownException hblocks _
  · rw [quantity_iff] at hquantity
    exact hrest hquantity.2

theorem wp_handleReadDiscrete_answered (hst : st.Ready) (callback : Option (ReadBits σ)) :
    Wp H (handleReadDiscrete callback) (Answered st (st.readDiscreteReply callback)) st := by
  apply wp_of_ready hst
  rw [handleReadDiscrete, wp_recv_pass hst.complete, wp_get_address]
  apply wp_checkedReply hblocks
  intro hlimit
  cases callback with
  | none => exact wp_ownException hblocks _
  | some callback =>
      apply wp_runReadCallback_then
      intro err out arg
      exact wp_answerData_answered hblocks err arg (length_cellBytes _ _ _) (bits_fit hlimit)
        fun hbefore h => wp_putBytes_assembled _ _ _ h (by have := bits_fit hlimit; omega)

theorem wp_handleReadRegisters_answered (hst : st.Ready) (callback : Option (ReadRegisters σ)) :
    Wp H (handleReadRegisters callback) (Answered st (st.readRegistersReply callback)) st := by
  apply wp_of_ready hst
  rw [handleReadRegisters, wp_recv_pass hst.complete, wp_get_address]
  apply wp_checkedReply hblocks
  intro hlimit
  cases callback with
  | none => exact wp_ownException hblocks _
  | some callback =>
      apply wp_runReadCallback_then
      intro err out arg
      have hfit := registers_fit hlimit
      exact wp_answerData_answered hblocks err arg
        ((length_registerBytes _ _ _).trans (Nat.mul_comm _ _)) hfit
        fun hbefore h => wp_putRegisters_data _ hfit hbefore h

theorem wp_handleWriteSingleCoil_answered (hst : st.Ready) :
    Wp H handleWriteSingleCoil (Answered st st.writeSingleCoilReply) st := by
  apply wp_of_ready hst
  rw [handleWriteSingleCoil, wp_withState, wp_recv_pass hst.complete, wp_get_address,
    seek_callbacks, writeSingleCoilReply]
  cases st.callbacks.writeSingleCoil with
  | none => exact wp_ownException hblocks _
  | some callback =>
      dsimp only
      split_ifs
      · exact wp_ownException hblocks _
      · rw [wp_bind, wp_runCallback]
        exact wp_answerWrite_answered hblocks _ _ _ _

theorem wp_handleWriteSingleRegister_answered (hst : st.Ready) :
    Wp H handleWriteSingleRegister (Answered st st.writeSingleRegisterReply) st := by
  apply wp_of_ready hst
  rw [handleWriteSingleRegister, wp_withState, wp_recv_pass hst.complete, wp_get_address,
    seek_callbacks, writeSingleRegisterReply]
  cases st.callbacks.writeSingleRegister with
  | none => exact wp_ownException hblocks _
  | some callback =>
      dsimp only
      rw [wp_bind, wp_runCallback]
      exact wp_answerWrite_answered hblocks _ _ _ _

theorem wp_handleWriteMultipleCoils_answered (hst : st.Ready) :
    Wp H handleWriteMultipleCoils (Answered st st.writeMultipleCoilsReply) st := by
  apply wp_of_ready hst
  rw [handleWriteMultipleCoils, wp_withState, wp_recv_pass hst.complete, wp_get_address_count,
    seek_callbacks, writeMultipleCoilsReply]
  by_cases hbytes : 246 < st.msg.buf 12
  · rw [if_pos hbytes]
    simp only [if_pos hbytes]
    exact ⟨rfl, framed_own st 13⟩
  · have hcount : (st.msg.buf 12).toNat ≤ 246 := UInt8.not_lt.mp hbytes
    rw [if_neg hbytes, wp_recv_pass hst.complete, wp_bind,
      wp_getBytes _ _ _ (by unfold msgBufSize; omega), bytesAt_eq]
    simp only [if_neg hbytes]
    apply wp_checkedReply hblocks
    intro _
    split_ifs
    · exact wp_ownException hblocks _
    · exact wp_ownException hblocks _
    · cases st.callbacks.writeMultipleCoils with
      | none => exact wp_ownException hblocks _
      | some callback =>
          dsimp only
          rw [wp_bind, wp_runCallback]
          exact wp_answerWrite_answered hblocks _ _ _ _

theorem wp_handleWriteMultipleRegisters_answered (hst : st.Ready) :
    Wp H handleWriteMultipleRegisters (Answered st st.writeMultipleRegistersReply) st := by
  apply wp_of_ready hst
  rw [handleWriteMultipleRegisters, wp_withState, wp_recv_pass hst.complete,
    wp_get_address_count, wp_recv_pass hst.complete, seek_callbacks, writeMultipleRegistersReply]
  by_cases hbytes : 246 < st.msg.buf 12
  · rw [if_pos hbytes]
    simp only [if_pos hbytes]
    exact ⟨rfl, framed_own st 13⟩
  · have hcount : (st.msg.buf 12).toNat ≤ 246 := UInt8.not_lt.mp hbytes
    rw [if_neg hbytes, wp_bind, wp_getRegisters _ _ _ (by unfold msgBufSize; omega), wordsAt_eq]
    simp only [if_neg hbytes]
    apply wp_checkedReply hblocks
    intro _
    split_ifs
    · exact wp_ownException hblocks _
    · exact wp_ownException hblocks _
    · cases st.callbacks.writeMultipleRegisters with
      | none => exact wp_ownException hblocks _
      | some callback =>
          dsimp only
          rw [wp_bind, wp_runCallback]
          exact wp_answerWrite_answered hblocks _ _ _ _

theorem wp_lateException (dataLength : UInt16) (data : UInt8) (exception : NmbsError) :
    Wp H (do
      putMsgHeader dataLength
      put1 data
      sendExceptionMsg exception) (Answered st (.exception exception, st.arg)) (st.seek n) := by
  rw [wp_bind]
  apply wp_mono (wp_putMsgHeader_assembled (framed_own st n) rfl rfl rfl dataLength)
  intro _ st₁ h₁
  rw [wp_bind]
  apply wp_mono (wp_put1_assembled h₁ (Nat.le_of_ble_eq_true rfl) data)
  intro _ st₂ h₂
  exact wp_sendExceptionMsg_sent h₂.framed h₂.transactionId_eq h₂.unitId_eq h₂.fc_eq exception
    hblocks

theorem wp_handleReadFileRecord_answered (hst : st.Ready) :
    Wp H handleReadFileRecord (Answered st st.readFileRecordReply) st := by
  apply wp_of_ready hst
  rw [handleReadFileRecord, wp_recv_pass hst.complete, wp_bind, wp_get1 (by decide),
    readFileRecordReply]
  by_cases hbytes : 245 < st.msg.buf 8
  · rw [if_pos hbytes]
    simp only [if_pos hbytes]
    exact ⟨rfl, framed_own st 9⟩
  · have hsize : (st.msg.buf 8).toNat ≤ 245 := UInt8.not_lt.mp hbytes
    rw [if_neg hbytes, wp_recv_pass hst.complete, wp_bind,
      wp_getSubrequests_at _ (by unfold msgBufSize; omega), wp_bind, wp_discardN]
    simp only [if_neg hbytes]
    split_ifs
    · exact wp_ownException hblocks _
    · exact wp_ownException hblocks _
    · exact wp_ownException hblocks _
    · exact wp_lateException hblocks _ _ _

theorem wp_handleReadDeviceIdentification_answered (hst : st.Ready) :
    Wp H handleReadDeviceIdentification (Answered st (.exception .illegalFunction, st.arg))
      st := by
  apply wp_of_ready hst
  rw [handleReadDeviceIdentification, wp_recv_pass hst.complete, wp_bind, wp_get1 (by decide),
    wp_bind, wp_get1 (by decide), wp_bind, wp_get1 (by decide)]
  exact wp_ownException hblocks _

theorem wp_handleWriteFileRecord_answered (hst : st.Ready)
    (hfit : ¬ 251 < st.msg.buf 8 → 7 ≤ st.msg.buf 8 →
      st.subrequestsFit msgBufSize 9 (st.msg.buf 8).toUInt16 = false → H .undefined) :
    Wp H handleWriteFileRecord (Answered st st.writeFileRecordReply) st := by
  apply wp_of_ready hst
  rw [handleWriteFileRecord, wp_recv_pass hst.complete, wp_bind, wp_get1 (by decide),
    writeFileRecordReply]
  by_cases hbytes : 251 < st.msg.buf 8
  · rw [if_pos hbytes, if_pos hbytes]
    exact ⟨rfl, framed_own st 9⟩
  · rw [if_neg hbytes, if_neg hbytes, wp_recv_pass hst.complete, wp_withState, wp_bind,
      wp_discardN, wp_bind, wp_modify, seek_seek]
    split_ifs with hsize
    · exact wp_ownException hblocks _
    · rw [wp_bind]
      apply wp_checkSubrequests_at _ _ (hfit hbytes (UInt8.not_lt.mp hsize))
      intro n'
      cases hscan : st.scanSubrequests msgBufSize (8 + 1) (st.msg.buf 8).toUInt16 with
      | none => exact wp_ownException hblocks _
      | some left =>
          have hvalid := valid_of_scanSubrequests hscan
          have hlength : (st.subrequestAt (8 + 1)).recordLength ≤ 122 := by
            simp only [Subrequest.valid, Bool.and_eq_true, decide_eq_true_eq] at hvalid
            exact hvalid.2
          have hcount : (st.subrequestAt (8 + 1)).recordLength.toNat ≤ 122 := hlength
          dsimp only
          split_ifs
          · exact wp_ownException hblocks _
          · rw [wp_bind, wp_modify, wp_bind, seek_seek, seek_bufIdx,
              wp_getSubrequest (by decide), wp_bind]
            apply wp_getRegs_at (by unfold msgBufSize; omega)
            intro buf n''
            have hframed : Framed (st.setArg st.arg) ((st.setBuf buf).seek n'') :=
              ⟨rfl, rfl, rfl, rfl, rfl⟩
            exact wp_sendExceptionMsg_sent hframed rfl rfl rfl _ hblocks

theorem wp_handleReadWriteRegisters_answered (hst : st.Ready) :
    Wp H handleReadWriteRegisters (Answered st st.readWriteReply) st := by
  apply wp_of_ready hst
  rw [handleReadWriteRegisters, wp_withState, wp_recv_pass hst.complete, wp_get_two_addresses,
    seek_callbacks, readWriteReply]
  by_cases hbytes : 242 < st.msg.buf 16
  · rw [if_pos hbytes]
    simp only [if_pos hbytes]
    exact ⟨rfl, framed_own st 17⟩
  · have hcount : (st.msg.buf 16).toNat ≤ 242 := UInt8.not_lt.mp hbytes
    rw [if_neg hbytes, wp_recv_pass hst.complete, wp_bind,
      wp_getRegisters _ _ _ (by unfold msgBufSize; omega), wordsAt_eq]
    simp only [if_neg hbytes]
    split_ifs with hread
    · exact wp_ownException hblocks _
    · exact wp_ownException hblocks _
    · exact wp_ownException hblocks _
    · exact wp_ownException hblocks _
    · exact wp_ownException hblocks _
    · rw [quantity_iff] at hread
      cases st.callbacks.writeMultipleRegisters with
      | none => exact wp_ownException hblocks _
      | some write =>
          cases st.callbacks.readHoldingRegisters with
          | none => exact wp_ownException hblocks _
          | some read =>
              dsimp only
              rw [wp_bind, wp_runCallback]
              split_ifs
              · exact wp_exception hblocks _ _
              · have hfit := registers_fit hread.2
                apply wp_runReadCallback_on
                intro err out arg
                exact wp_answerData_answered hblocks err arg
                  ((length_registerBytes _ _ _).trans (Nat.mul_comm _ _)) hfit
                  fun hbefore h => wp_putRegisters_data _ hfit hbefore h

end Sending

end Handlers

end DriveSim
