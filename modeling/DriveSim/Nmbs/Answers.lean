import DriveSim.Nmbs.Replies

/-!
# The form of an answer

Every answer repeats what identifies its request and fits one Modbus TCP message, and a
message gets none exactly when its byte count is too large.
-/

namespace DriveSim

open Lib Program Nmbs

variable {σ : Type*}

/-- What may answer a message: some data, at most 251 bytes of it, or one of the four
exceptions of the protocol. -/
inductive IsAnswer (msg : NmbsMsg) : List UInt8 → Prop
  | data {bytes : List UInt8} (hpos : 0 < bytes.length) (hle : bytes.length ≤ 251) :
      IsAnswer msg (frame msg.transactionId msg.unitId msg.fc bytes)
  | exception {code : UInt8} (hpos : 1 ≤ code) (hle : code ≤ 4) :
      IsAnswer msg (frame msg.transactionId msg.unitId (msg.fc + 0x80) [code])

theorem IsAnswer.length_le {msg : NmbsMsg} {bytes : List UInt8} (h : IsAnswer msg bytes) :
    9 ≤ bytes.length ∧ bytes.length ≤ msgBufSize := by
  unfold msgBufSize
  cases h with
  | data hpos hle =>
      rw [length_frame]
      omega
  | exception hpos hle => exact ⟨Nat.le_of_ble_eq_true rfl, Nat.le_of_ble_eq_true rfl⟩

def Reply.Fits : Reply → Prop
  | .silent => True
  | .exception e => e.isException = true
  | .data bytes => 0 < bytes.length ∧ bytes.length ≤ 251

theorem isException_callbackException (err : NmbsError) :
    (callbackException err).isException = true := by
  unfold callbackException
  split_ifs with h
  · exact h
  · rfl

theorem code_of_isException {e : NmbsError} (h : e.isException = true) :
    1 ≤ UInt8.ofNat e.code.toNat ∧ UInt8.ofNat e.code.toNat ≤ 4 := by
  cases e <;> revert h <;> decide

theorem Reply.Fits.isAnswer {reply : Reply} (h : reply.Fits) {msg : NmbsMsg}
    {bytes : List UInt8} (hbytes : reply.answer msg = some bytes) : IsAnswer msg bytes := by
  cases reply with
  | silent => exact absurd hbytes (Option.some_ne_none _).symm
  | exception e =>
      obtain rfl := Option.some.inj hbytes
      exact .exception (code_of_isException h).1 (code_of_isException h).2
  | data data =>
      obtain rfl := Option.some.inj hbytes
      exact .data h.1 h.2

theorem Reply.Fits.ofVerdict (err : NmbsError) {data : List UInt8}
    (hpos : 0 < data.length) (hle : data.length ≤ 251) : (Reply.ofVerdict err data).Fits := by
  rw [Reply.ofVerdict]
  split_ifs
  · exact isException_callbackException err
  · exact ⟨hpos, hle⟩

section Fits

variable {st : Nmbs σ}

theorem fits_checkedReply {limit : UInt16} {reply : Reply × σ}
    (h : st.wordAt 10 ≤ limit → reply.1.Fits) : (st.checkedReply limit reply).1.Fits := by
  rw [checkedReply]
  split_ifs with hquantity
  · rfl
  · rfl
  · rw [quantity_iff] at hquantity
    exact h hquantity.2

theorem fits_readReply {α : Type} (callback : UInt16 → UInt16 → Cells α → UInt8 → σ →
    NmbsError × Cells α × σ) (zero : α) {data : Cells α → List UInt8}
    (hpos : ∀ cells, 0 < (data cells).length) (hle : ∀ cells, (data cells).length ≤ 251) :
    (st.readReply callback zero data).1.Fits :=
  .ofVerdict _ (hpos _) (hle _)

theorem fits_readDiscreteReply (callback : Option (ReadBits σ)) :
    (st.readDiscreteReply callback).1.Fits := by
  apply fits_checkedReply
  intro hlimit
  cases callback with
  | none => rfl
  | some callback =>
      have hquantity : (st.wordAt 10).toNat ≤ 2000 := hlimit
      apply fits_readReply
      · exact fun cells => Nat.succ_pos _
      · intro cells
        rw [List.length_cons, length_cellBytes]
        omega

theorem fits_registersReply {quantity : UInt16} (hlimit : quantity ≤ 125)
    (callback : ReadRegisters σ) :
    (st.readReply callback 0 (registersData quantity)).1.Fits := by
  have hquantity : quantity.toNat ≤ 125 := hlimit
  apply fits_readReply
  · exact fun cells => Nat.succ_pos _
  · intro cells
    rw [registersData, List.length_cons, length_registerBytes]
    omega

theorem fits_readRegistersReply (callback : Option (ReadRegisters σ)) :
    (st.readRegistersReply callback).1.Fits := by
  apply fits_checkedReply
  intro hlimit
  cases callback with
  | none => rfl
  | some callback => exact fits_registersReply hlimit callback

theorem fits_writeReply (verdict : NmbsError × σ) : (st.writeReply verdict).1.Fits :=
  .ofVerdict _ (Nat.le_of_ble_eq_true rfl) (Nat.le_of_ble_eq_true rfl)

theorem fits_writeSingleCoilReply : st.writeSingleCoilReply.1.Fits := by
  rw [writeSingleCoilReply]
  cases st.callbacks.writeSingleCoil with
  | none => rfl
  | some callback =>
      dsimp only
      split_ifs
      · rfl
      · exact fits_writeReply _

theorem fits_writeSingleRegisterReply : st.writeSingleRegisterReply.1.Fits := by
  rw [writeSingleRegisterReply]
  cases st.callbacks.writeSingleRegister with
  | none => rfl
  | some callback => exact fits_writeReply _

theorem fits_writeMultipleCoilsReply : st.writeMultipleCoilsReply.1.Fits := by
  rw [writeMultipleCoilsReply]
  by_cases hbytes : 246 < st.msg.buf 12
  · rw [if_pos hbytes]
    trivial
  · rw [if_neg hbytes]
    apply fits_checkedReply
    intro _
    split_ifs
    · rfl
    · rfl
    · cases st.callbacks.writeMultipleCoils with
      | none => rfl
      | some callback => exact fits_writeReply _

theorem fits_writeMultipleRegistersReply : st.writeMultipleRegistersReply.1.Fits := by
  rw [writeMultipleRegistersReply]
  by_cases hbytes : 246 < st.msg.buf 12
  · rw [if_pos hbytes]
    trivial
  · rw [if_neg hbytes]
    apply fits_checkedReply
    intro _
    split_ifs
    · rfl
    · rfl
    · cases st.callbacks.writeMultipleRegisters with
      | none => rfl
      | some callback => exact fits_writeReply _

theorem fits_readFileRecordReply : st.readFileRecordReply.1.Fits := by
  rw [readFileRecordReply]
  split_ifs <;> first | rfl | trivial

theorem fits_writeFileRecordReply : st.writeFileRecordReply.1.Fits := by
  rw [writeFileRecordReply]
  split_ifs
  · trivial
  · rfl
  · cases st.scanSubrequests msgBufSize 9 (st.msg.buf 8).toUInt16 with
    | none => rfl
    | some size =>
        dsimp only
        split_ifs <;> rfl

theorem fits_readWriteReply : st.readWriteReply.1.Fits := by
  rw [readWriteReply]
  dsimp only
  split_ifs with _ hread
  · trivial
  · rfl
  · rfl
  · rfl
  · rfl
  · rfl
  · rw [quantity_iff] at hread
    cases st.callbacks.writeMultipleRegisters with
    | none => rfl
    | some write =>
        cases st.callbacks.readHoldingRegisters with
        | none => rfl
        | some read =>
            dsimp only
            split_ifs
            · exact isException_callbackException _
            · exact fits_registersReply hread.2 read

theorem fits_reply (st : Nmbs σ) : st.reply.1.Fits := by
  unfold reply replyFor
  split
  · exact fits_readDiscreteReply _
  · exact fits_readDiscreteReply _
  · exact fits_readRegistersReply _
  · exact fits_readRegistersReply _
  · exact fits_writeSingleCoilReply
  · exact fits_writeSingleRegisterReply
  · exact fits_writeMultipleCoilsReply
  · exact fits_writeMultipleRegistersReply
  · exact fits_readFileRecordReply
  · exact fits_writeFileRecordReply
  · exact fits_readWriteReply
  · rfl

theorem isAnswer_of_reply {bytes : List UInt8} (h : st.reply.1.answer st.msg = some bytes) :
    IsAnswer st.msg bytes :=
  (fits_reply st).isAnswer h

end Fits

end DriveSim
