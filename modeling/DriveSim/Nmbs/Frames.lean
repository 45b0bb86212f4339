import DriveSim.Nmbs.Messages

/-!
# The bytes of an answer

Every `put` appends to the message in the buffer, so that the message sent is the
concatenation of what was put.  `Assembled` is what holds in between, and `Sent` what is
left when these bytes have been handed to the transport.
-/

namespace DriveSim

open Lib Program Nmbs

/-! ## Modbus TCP messages -/

def wordBytes (w : UInt16) : List UInt8 := [(w >>> 8).toUInt8, w.toUInt8]

def registerBytes (cells : Cells UInt16) (i : Nat) : Nat → List UInt8
  | 0 => []
  | count + 1 => wordBytes (cells i) ++ registerBytes cells (i + 1) count

def cellBytes (cells : Cells UInt8) (i : Nat) : Nat → List UInt8
  | 0 => []
  | count + 1 => cells i :: cellBytes cells (i + 1) count

def mbapHeader (transactionId : UInt16) (unitId fc : UInt8) (dataLength : UInt16) : List UInt8 :=
  wordBytes transactionId ++ wordBytes 0 ++ wordBytes (1 + 1 + dataLength) ++ [unitId, fc]

def frame (transactionId : UInt16) (unitId fc : UInt8) (data : List UInt8) : List UInt8 :=
  mbapHeader transactionId unitId fc (UInt16.ofNat data.length) ++ data

@[simp] theorem length_wordBytes (w : UInt16) : (wordBytes w).length = 2 := rfl

@[simp] theorem length_registerBytes (cells : Cells UInt16) (i count : Nat) :
    (registerBytes cells i count).length = 2 * count := by
  induction count generalizing i with
  | zero => rfl
  | succ count ih =>
      rw [registerBytes, List.length_append, ih, length_wordBytes]
      omega

@[simp] theorem length_cellBytes (cells : Cells UInt8) (i count : Nat) :
    (cellBytes cells i count).length = count := by
  induction count generalizing i with
  | zero => rfl
  | succ count ih => rw [cellBytes, List.length_cons, ih]

@[simp] theorem length_mbapHeader (transactionId : UInt16) (unitId fc : UInt8)
    (dataLength : UInt16) : (mbapHeader transactionId unitId fc dataLength).length = 8 := rfl

@[simp] theorem length_frame (transactionId : UInt16) (unitId fc : UInt8) (data : List UInt8) :
    (frame transactionId unitId fc data).length = 8 + data.length := by
  rw [frame, List.length_append, length_mbapHeader]

theorem word_toNat (hi lo : UInt8) : (word hi lo).toNat = hi.toNat * 256 + lo.toNat := by
  have hhi := hi.toNat_lt
  have hlo := lo.toNat_lt
  have hshift : (8 : UInt16).toNat % 16 = 8 := rfl
  rw [word, UInt16.toNat_or, UInt16.toNat_shiftLeft, UInt8.toNat_toUInt16,
    UInt8.toNat_toUInt16, hshift, Nat.shiftLeft_eq, Nat.mod_eq_of_lt (by omega), Nat.mul_comm]
  exact (Nat.two_pow_add_eq_or_of_lt hlo hi.toNat).symm

theorem toNat_highByte (w : UInt16) : (w >>> 8).toUInt8.toNat = w.toNat / 256 := by
  have hw := w.toNat_lt
  have hshift : (8 : UInt16).toNat % 16 = 8 := rfl
  rw [UInt16.toNat_toUInt8, UInt16.toNat_shiftRight, hshift, Nat.shiftRight_eq_div_pow]
  omega

/-- Reading a word back. -/
theorem word_wordBytes (w : UInt16) : word (w >>> 8).toUInt8 w.toUInt8 = w := by
  have hw := w.toNat_lt
  apply UInt16.toNat.inj
  rw [word_toNat, toNat_highByte, UInt16.toNat_toUInt8]
  omega

theorem wordBytes_word (hi lo : UInt8) : wordBytes (word hi lo) = [hi, lo] := by
  have hhi := hi.toNat_lt
  have hlo := lo.toNat_lt
  have hhigh : (word hi lo >>> 8).toUInt8 = hi := by
    apply UInt8.toNat.inj
    rw [toNat_highByte, word_toNat]
    omega
  have hlow : (word hi lo).toUInt8 = lo := by
    apply UInt8.toNat.inj
    rw [UInt16.toNat_toUInt8, word_toNat]
    omega
  rw [wordBytes, hhigh, hlow]

/-- Bytes whose length field counts what follows it are a message. -/
theorem eq_frame {b₀ b₁ b₂ b₃ b₄ b₅ b₆ b₇ : UInt8} {body : List UInt8} (hprotocol : word b₂ b₃ = 0)
    (hlength : (word b₄ b₅).toNat = 2 + body.length) :
    b₀ :: b₁ :: b₂ :: b₃ :: b₄ :: b₅ :: b₆ :: b₇ :: body = frame (word b₀ b₁) b₆ b₇ body := by
  have hcount : 1 + 1 + UInt16.ofNat body.length = word b₄ b₅ := by
    have hword := (word b₄ b₅).toNat_lt
    apply UInt16.toNat.inj
    rw [UInt16.toNat_add, UInt16.toNat_add, UInt16.toNat_ofNat', UInt16.toNat_one, hlength]
    omega
  have hzero := wordBytes_word b₂ b₃
  rw [hprotocol] at hzero
  rw [frame, mbapHeader, hcount, wordBytes_word, wordBytes_word, hzero]
  rfl

/-! ## Assembling a message -/

variable {σ : Type*}

theorem messageBytes_set (buf : Cells UInt8) (n : Nat) (data : UInt8) :
    messageBytes (buf.set n data) (n + 1) = messageBytes buf n ++ [data] := by
  rw [messageBytes, List.range_succ, List.map_append, List.map_singleton, Cells.set_self,
    messageBytes]
  congr 1
  apply List.map_congr_left
  intro i hi
  exact Cells.set_of_ne buf (List.mem_range.mp hi).ne data

structure Assembled (start : Nmbs σ) (bytes : List UInt8) (st : Nmbs σ) : Prop where
  framed : Framed start st
  transactionId_eq : st.msg.transactionId = start.msg.transactionId
  unitId_eq : st.msg.unitId = start.msg.unitId
  fc_eq : st.msg.fc = start.msg.fc
  bufIdx : st.msg.bufIdx = bytes.length
  cells : messageBytes st.msg.buf bytes.length = bytes

structure Sent (start : Nmbs σ) (bytes : List UInt8) (err : NmbsError) (st : Nmbs σ) : Prop where
  conn_eq : ∃ o, start.conn.sends 0 = some o ∧ st.conn = start.conn.sent o bytes
  err_eq : err = if start.conn.Sends then .none else .transport
  arg_eq : st.arg = start.arg
  callbacks_eq : st.callbacks = start.callbacks
  byteTimeout_eq : st.byteTimeoutMs = start.byteTimeoutMs
  readTimeout_eq : st.readTimeoutMs = start.readTimeoutMs

section Assembling

variable {H : Halt → Prop} {start st : Nmbs σ} {bytes : List UInt8}

theorem wp_put1_assembled (h : Assembled start bytes st) (hfit : bytes.length < msgBufSize)
    (data : UInt8) : Wp H (put1 data) (fun _ st' => Assembled start (bytes ++ [data]) st') st := by
  have hput : put1 data st =
      .ok ((), (st.setBuf (st.msg.buf.set bytes.length data)).seek (bytes.length + 1)) := by
    rw [put1, h.bufIdx, if_pos hfit]
  rw [wp_of_eq hput]
  have hlength : (bytes ++ [data]).length = bytes.length + 1 := List.length_append
  refine ⟨⟨h.framed.1, h.framed.2, h.framed.3, h.framed.4, h.framed.5⟩, h.transactionId_eq,
    h.unitId_eq, h.fc_eq, hlength.symm, ?_⟩
  rw [hlength]
  exact (messageBytes_set _ _ data).trans (congrArg (· ++ [data]) h.cells)

theorem wp_put2_assembled (h : Assembled start bytes st) (hfit : bytes.length + 1 < msgBufSize)
    (data : UInt16) :
    Wp H (put2 data) (fun _ st' => Assembled start (bytes ++ wordBytes data) st') st := by
  rw [put2, wp_bind]
  apply wp_mono (wp_put1_assembled h (by omega) _)
  intro _ st₁ h₁
  apply wp_mono (wp_put1_assembled h₁ (by rw [List.length_append]; exact hfit) _)
  intro _ st₂ h₂
  rwa [List.append_assoc] at h₂

theorem wp_putBytes_assembled (cells : Cells UInt8) (i count : Nat) (h : Assembled start bytes st)
    (hfit : bytes.length + count ≤ msgBufSize) :
    Wp H (putBytes cells i count)
      (fun _ st' => Assembled start (bytes ++ cellBytes cells i count) st') st := by
  induction count generalizing i bytes st with
  | zero => rwa [putBytes, wp_pure, cellBytes, List.append_nil]
  | succ count ih =>
      rw [putBytes, wp_bind]
      apply wp_mono (wp_put1_assembled h (by omega) _)
      intro _ st₁ h₁
      apply wp_mono (ih (i + 1) h₁ (by rw [List.length_append, List.length_singleton]; omega))
      intro _ st₂ h₂
      rwa [List.append_assoc] at h₂

theorem wp_putRegisters_assembled (cells : Cells UInt16) (i count : Nat)
    (h : Assembled start bytes st) (hfit : bytes.length + 2 * count ≤ msgBufSize) :
    Wp H (putRegisters cells i count)
      (fun _ st' => Assembled start (bytes ++ registerBytes cells i count) st') st := by
  induction count generalizing i bytes st with
  | zero => rwa [putRegisters, wp_pure, registerBytes, List.append_nil]
  | succ count ih =>
      rw [putRegisters, wp_bind]
      apply wp_mono (wp_put2_assembled h (by omega) _)
      intro _ st₁ h₁
      apply wp_mono (ih (i + 1) h₁ (by rw [List.length_append, length_wordBytes]; omega))
      intro _ st₂ h₂
      rwa [List.append_assoc] at h₂

theorem wp_putMsgHeader_assembled (h : Framed start st)
    (htransactionId : st.msg.transactionId = start.msg.transactionId)
    (hunitId : st.msg.unitId = start.msg.unitId) (hfc : st.msg.fc = start.msg.fc)
    (dataLength : UInt16) :
    Wp H (putMsgHeader dataLength) (fun _ st' => Assembled start
      (mbapHeader start.msg.transactionId start.msg.unitId start.msg.fc dataLength) st') st := by
  have hreset : Assembled start [] (st.seek 0) :=
    ⟨⟨h.1, h.2, h.3, h.4, h.5⟩, htransactionId, hunitId, hfc, rfl, rfl⟩
  rw [putMsgHeader, wp_bind, msgBufReset, wp_modify, wp_withState, wp_bind]
  apply wp_mono (wp_put2_assembled hreset (by decide) _)
  intro _ st₁ h₁
  rw [wp_bind]
  apply wp_mono (wp_put2_assembled h₁ (Nat.le_of_ble_eq_true rfl) _)
  intro _ st₂ h₂
  rw [wp_bind]
  apply wp_mono (wp_put2_assembled h₂ (Nat.le_of_ble_eq_true rfl) _)
  intro _ st₃ h₃
  rw [wp_bind]
  apply wp_mono (wp_put1_assembled h₃ (Nat.le_of_ble_eq_true rfl) _)
  intro _ st₄ h₄
  apply wp_mono (wp_put1_assembled h₄ (Nat.le_of_ble_eq_true rfl) _)
  intro _ st₅ h₅
  have htransactionId' : (st.seek 0).msg.transactionId = start.msg.transactionId := htransactionId
  have hunitId' : (st.seek 0).msg.unitId = start.msg.unitId := hunitId
  have hfc' : (st.seek 0).msg.fc = start.msg.fc := hfc
  rw [htransactionId', hunitId', hfc'] at h₅
  exact h₅

theorem wp_sendMsg_assembled (h : Assembled start bytes st) (hfit : bytes.length ≤ msgBufSize)
    (hblocks : start.conn.SendBlocks → H .running) : Wp H sendMsg (Sent start bytes) st := by
  rw [sendMsg, wp_withState, h.bufIdx]
  apply wp_send hfit
  · rwa [h.framed.conn_eq]
  · intro o houtcome
    rw [h.framed.conn_eq] at houtcome ⊢
    rw [h.cells]
    exact ⟨⟨o, houtcome, rfl⟩, rfl, h.framed.arg_eq, h.framed.callbacks_eq,
      h.framed.byteTimeout_eq, h.framed.readTimeout_eq⟩

theorem wp_sendExceptionMsg_sent (h : Framed start st)
    (htransactionId : st.msg.transactionId = start.msg.transactionId)
    (hunitId : st.msg.unitId = start.msg.unitId) (hfc : st.msg.fc = start.msg.fc)
    (exception : NmbsError) (hblocks : start.conn.SendBlocks → H .running) :
    Wp H (sendExceptionMsg exception) (Sent start (frame start.msg.transactionId
      start.msg.unitId (start.msg.fc + 0x80) [UInt8.ofNat exception.code.toNat])) st := by
  have hmarked : Framed (start.setFc (start.msg.fc + 0x80)) (st.setFc (st.msg.fc + 0x80)) :=
    ⟨h.1, h.2, h.3, h.4, h.5⟩
  have hfc' : (st.setFc (st.msg.fc + 0x80)).msg.fc = start.msg.fc + 0x80 := by
    rw [← hfc]
    rfl
  rw [sendExceptionMsg, wp_bind, wp_modify, wp_bind]
  apply wp_mono (wp_putMsgHeader_assembled hmarked htransactionId hunitId hfc' 1)
  intro _ st₁ h₁
  rw [wp_bind]
  apply wp_mono (wp_put1_assembled h₁ (Nat.le_of_ble_eq_true rfl) _)
  intro _ st₂ h₂
  apply wp_mono (wp_sendMsg_assembled h₂ (Nat.le_of_ble_eq_true rfl) hblocks)
  intro err st₃ h₃
  exact ⟨h₃.1, h₃.2, h₃.3, h₃.4, h₃.5, h₃.6⟩

end Assembling

end DriveSim
