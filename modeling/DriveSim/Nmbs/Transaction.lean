import DriveSim.Nmbs.Client
import DriveSim.Nmbs.Prompt

/-!
# One transaction of a client

A client sends its request as one frame and reads back the frame that answers it, or the
exception in it.  `Hears` is what the peer has to do in between.
-/

namespace DriveSim

open Lib Program Nmbs

/-! ## The request -/

/-- A flush that finds nothing on the line drops nothing. -/
def FlushesQueued (flush : ClientM Unit) : Prop :=
  ∀ st, ¬ st.conn.incoming.ArrivesWithin (some 0) 1 → ∃ buf, flush st = .ok ((), st.setBuf buf)

def Nmbs.requesting (st : Nmbs ClientFields) (fc : UInt8) (buf : Cells UInt8) :
    Nmbs ClientFields :=
  { st with
    msg := ⟨buf, 0, st.arg.next.destAddressRtu, fc, st.arg.next.currentTid, false⟩
    arg := st.arg.next }

structure Requested (st : Nmbs ClientFields) (fc : UInt8) (body : List UInt8) (err : NmbsError)
    (st' : Nmbs ClientFields) : Prop where
  conn_eq : ∃ o, st.conn.sends 0 = some o ∧ st'.conn = st.conn.sent o
    (frame st.arg.next.currentTid st.arg.next.destAddressRtu fc body)
  err_eq : err = if st.conn.Sends then .none else .transport
  arg_eq : st'.arg = st.arg.next
  transactionId_eq : st'.msg.transactionId = st.arg.next.currentTid
  fc_eq : st'.msg.fc = fc
  byteTimeout_eq : st'.byteTimeoutMs = st.byteTimeoutMs
  readTimeout_eq : st'.readTimeoutMs = st.readTimeoutMs

section Request

variable {H : Halt → Prop} {flush : ClientM Unit} {st : Nmbs ClientFields} {fc : UInt8}
  {buf : Cells UInt8} {body : List UInt8}

theorem wp_msgStateReq (hflush : FlushesQueued flush)
    (hquiet : ¬ st.conn.incoming.ArrivesWithin (some 0) 1) {Q : Unit → Nmbs ClientFields → Prop}
    (hQ : ∀ buf, Q () (st.requesting fc buf)) : Wp H (msgStateReq flush fc) Q st := by
  obtain ⟨buf, hrun⟩ := hflush (st.setArg st.arg.next) hquiet
  rw [msgStateReq, wp_bind, wp_modify, wp_bind, wp_of_eq hrun, wp_bind, msgStateReset, wp_modify,
    wp_modify]
  exact hQ buf

theorem wp_putMsgHeader_requesting (dataLength : UInt16) :
    Wp H (putMsgHeader dataLength) (fun _ st' => Assembled (st.requesting fc buf)
      (mbapHeader st.arg.next.currentTid st.arg.next.destAddressRtu fc dataLength) st')
      (st.requesting fc buf) :=
  wp_putMsgHeader_assembled ⟨rfl, rfl, rfl, rfl, rfl⟩ rfl rfl rfl dataLength

theorem wp_sendMsg_requested {st₁ : Nmbs ClientFields}
    (h : Assembled (st.requesting fc buf)
      (frame st.arg.next.currentTid st.arg.next.destAddressRtu fc body) st₁)
    (hfit : 8 + body.length ≤ msgBufSize) (hblocks : st.conn.SendBlocks → H .running) :
    Wp H sendMsg (Requested st fc body) st₁ := by
  have hlength : (frame st.arg.next.currentTid st.arg.next.destAddressRtu fc body).length =
      8 + body.length := length_frame ..
  have hconn : st₁.conn = st.conn := h.framed.conn_eq
  have hcells := h.cells
  rw [hlength] at hcells
  rw [sendMsg, wp_withState, h.bufIdx, hlength]
  apply wp_send hfit (hconn ▸ hblocks)
  intro o houtcome
  rw [hcells, hconn]
  rw [hconn] at houtcome
  exact ⟨⟨o, houtcome, rfl⟩, rfl, h.framed.arg_eq, h.transactionId_eq, h.fc_eq,
    h.framed.byteTimeout_eq, h.framed.readTimeout_eq⟩

theorem wp_sendRequest (hflush : FlushesQueued flush)
    (hquiet : ¬ st.conn.incoming.ArrivesWithin (some 0) 1)
    (hblocks : st.conn.SendBlocks → H .running) (address value : UInt16) :
    Wp H (sendRequest flush fc address value)
      (Requested st fc (wordBytes address ++ wordBytes value)) st := by
  rw [sendRequest, wp_bind]
  apply wp_msgStateReq hflush hquiet
  intro buf
  rw [wp_bind]
  apply wp_mono (wp_putMsgHeader_requesting 4)
  intro _ st₁ h₁
  rw [wp_bind]
  apply wp_mono (wp_put2_assembled h₁ (Nat.le_of_ble_eq_true rfl) _)
  intro _ st₂ h₂
  rw [wp_bind]
  apply wp_mono (wp_put2_assembled h₂ (Nat.le_of_ble_eq_true rfl) _)
  intro _ st₃ h₃
  rw [List.append_assoc] at h₃
  exact wp_sendMsg_requested h₃ (Nat.le_of_ble_eq_true rfl) hblocks

end Request

/-! ## The response -/

theorem NmbsError.ofException_ne_none (exception : UInt8) :
    NmbsError.ofException exception ≠ .none := by
  rw [ofException]
  split_ifs <;> exact NmbsError.noConfusion

/-- The next thing to come is this message, in time, and then the rest. -/
structure Hears {σ : Type*} (st : Nmbs σ) (m : Message) (rest : List (Nat × UInt8)) : Prop where
  readTimeout_nonneg : 0 ≤ st.readTimeoutMs
  byteTimeout_nonneg : 0 ≤ st.byteTimeoutMs
  first : st.conn.incoming.ArrivesWithin (Conn.limitOf st.readTimeoutMs.toNat) 1
  message : ∃ piece, st.conn.incoming.arrivals = piece ++ rest ∧
    m.SentIn (Conn.limitOf st.byteTimeoutMs.toNat) piece

section Response

variable {σ : Type*} {H : Halt → Prop} {st : Nmbs σ} {m : Message} {rest : List (Nat × UInt8)}

structure Heard (st : Nmbs σ) (m : Message) (rest : List (Nat × UInt8)) : Prop where
  arrives : st.Arrives
  transactionId_eq : st.gotMessage.msg.transactionId = m.transactionId
  fc_eq : st.gotMessage.msg.fc = m.fc
  cells : ∀ i < m.body.length, st.gotMessage.msg.buf (8 + i) = m.body.getD i 0
  arrivals_eq : st.gotMessage.conn.incoming.arrivals = rest

theorem Hears.heard (h : Hears st m rest) : Heard st m rest := by
  obtain ⟨piece, hall, hsent⟩ := h.message
  have hbyte : st.byteLimit = Conn.limitOf st.byteTimeoutMs.toNat :=
    Conn.readLimit_of_nonneg _ h.byteTimeout_nonneg
  have hfirst := h.first
  rw [← Conn.readLimit_of_nonneg st.conn h.readTimeout_nonneg] at hfirst
  have helements : st.conn.incoming.elements = m.bytes ++ rest.map Prod.snd := by
    rw [TimedStream.elements, hall, List.map_append, hsent.bytes_eq]
  obtain ⟨harrives, hlength⟩ := (hbyte ▸ hsent : m.SentIn st.byteLimit piece).arrives hall hfirst
  obtain ⟨htransactionId, _, hfc, hcells⟩ := Message.received_eq helements
  refine ⟨harrives, htransactionId, hfc, fun i hi => ?_, ?_⟩
  · have hcell : st.gotMessage.msg.buf (8 + i) = m.bytes.getD (8 + i) 0 := hcells _ (by omega)
    rw [hcell, Message.bytes, frame,
      List.getD_append_right _ _ _ _ (by rw [length_mbapHeader]; omega), length_mbapHeader,
      Nat.add_sub_cancel_left]
  · have htaken : 8 + st.bodyLength = piece.length := by
      rw [hlength, ← List.length_map (f := Prod.snd), hsent.bytes_eq, Message.length_bytes]
    rw [gotMessage_incoming, TimedStream.drop, hall, htaken, List.drop_left]

variable (h : Heard st m rest) (htransactionId : st.msg.transactionId = m.transactionId)
include h htransactionId

theorem wp_recvResHeader_heard (hfc : st.msg.fc = m.fc) (Q : NmbsError → Nmbs σ → Prop) :
    Wp H recvResHeader Q st ↔ Q .none (st.gotMessage.seek 8) := by
  have hready : st.gotMessage.Ready := ⟨rfl, rfl⟩
  rw [recvResHeader, wp_withState, wp_bind, wp_recvMsgHeader_arrives h.arrives]
  dsimp only
  rw [if_neg (by decide), wp_withState, h.transactionId_eq, h.fc_eq,
    if_neg (not_not.mpr htransactionId.symm), if_neg (not_not.mpr hfc.symm), wp_pure,
    hready.seek_eq]

theorem wp_recvResHeader_exception (hfc : m.fc.toNat = st.msg.fc.toNat + 0x80)
    {exception : UInt8} (hbody : m.body = [exception])
    (hexception : 1 ≤ exception ∧ exception ≤ 4) (Q : NmbsError → Nmbs σ → Prop) :
    Wp H recvResHeader Q st ↔ Q (.ofException exception) (st.gotMessage.seek 9) := by
  have hready : st.gotMessage.Ready := ⟨rfl, rfl⟩
  have hne : m.fc ≠ st.msg.fc := by
    intro heq
    rw [heq] at hfc
    omega
  have hcell : st.gotMessage.msg.buf 8 = exception := by
    have hcell := h.cells 0 (by rw [hbody]; exact Nat.one_pos)
    rw [hbody] at hcell
    exact hcell
  rw [recvResHeader, wp_withState, wp_bind, wp_recvMsgHeader_arrives h.arrives]
  dsimp only
  rw [if_neg (by decide), wp_withState, h.transactionId_eq, h.fc_eq,
    if_neg (not_not.mpr htransactionId.symm), if_pos hne, if_pos hfc, ← hready.seek_eq,
    wp_recv_pass hready.complete, wp_bind, wp_get1 (by decide), hcell,
    if_neg (by rw [not_or, UInt8.not_lt, UInt8.not_lt]; exact hexception), wp_pure]
  rfl

theorem wp_recvReadDiscreteRes_exception (hfc : m.fc.toNat = st.msg.fc.toNat + 0x80)
    {exception : UInt8} (hbody : m.body = [exception])
    (hexception : 1 ≤ exception ∧ exception ≤ 4) (values : Cells UInt8)
    (Q : NmbsError × Cells UInt8 → Nmbs σ → Prop) :
    Wp H (recvReadDiscreteRes values) Q st ↔
      Q (.ofException exception, values) (st.gotMessage.seek 9) := by
  rw [recvReadDiscreteRes, wp_bind,
    wp_recvResHeader_exception h htransactionId hfc hbody hexception,
    if_pos (NmbsError.ofException_ne_none exception), wp_pure]

theorem wp_recvReadRegistersRes_exception (hfc : m.fc.toNat = st.msg.fc.toNat + 0x80)
    {exception : UInt8} (hbody : m.body = [exception])
    (hexception : 1 ≤ exception ∧ exception ≤ 4) (quantity : UInt16) (registers : Cells UInt16)
    (Q : NmbsError × Cells UInt16 → Nmbs σ → Prop) :
    Wp H (recvReadRegistersRes quantity registers) Q st ↔
      Q (.ofException exception, registers) (st.gotMessage.seek 9) := by
  rw [recvReadRegistersRes, wp_bind,
    wp_recvResHeader_exception h htransactionId hfc hbody hexception,
    if_pos (NmbsError.ofException_ne_none exception), wp_pure]

theorem wp_recvWriteRes_exception (hfc : m.fc.toNat = st.msg.fc.toNat + 0x80)
    {exception : UInt8} (hbody : m.body = [exception])
    (hexception : 1 ≤ exception ∧ exception ≤ 4) (address value : UInt16)
    (Q : NmbsError → Nmbs σ → Prop) :
    Wp H (recvWriteRes address value) Q st ↔
      Q (.ofException exception) (st.gotMessage.seek 9) := by
  rw [recvWriteRes, wp_bind, wp_recvResHeader_exception h htransactionId hfc hbody hexception,
    if_pos (NmbsError.ofException_ne_none exception), wp_pure]

/-! ### The data of a response -/

theorem wp_recvReadDiscreteRes_heard (hfc : st.msg.fc = m.fc) {count : Nat} (hcount : count ≤ 250)
    (hcell : st.gotMessage.msg.buf 8 = UInt8.ofNat count) (values : Cells UInt8)
    (Q : NmbsError × Cells UInt8 → Nmbs σ → Prop) :
    Wp H (recvReadDiscreteRes values) Q st ↔
      Q (.none, fun j => if j < count then st.gotMessage.msg.buf (9 + j) else values j)
        (st.gotMessage.seek (9 + count)) := by
  have hcomplete : st.gotMessage.msg.complete = true := rfl
  have htoNat : (UInt8.ofNat count).toNat = count := by
    rw [UInt8.toNat_ofNat']
    omega
  have hsmall : ¬ 250 < UInt8.ofNat count := by
    have hlimit : (250 : UInt8).toNat = 250 := rfl
    rw [UInt8.lt_iff_toNat_lt, htoNat, hlimit]
    omega
  have hfit : 9 + count ≤ msgBufSize := by
    unfold msgBufSize
    omega
  rw [recvReadDiscreteRes, wp_bind, wp_recvResHeader_heard h htransactionId hfc,
    if_neg (by decide), wp_bind, wp_recv hcomplete, if_neg (by decide), wp_bind,
    wp_get1 (by decide), hcell, if_neg hsmall, wp_bind, wp_recv hcomplete, if_neg (by decide),
    wp_bind, htoNat, wp_getBytes values 0 count hfit, wp_pure]
  simp only [Nat.zero_le, true_and, Nat.zero_add, Nat.sub_zero]

theorem wp_recvReadRegistersRes_heard (hfc : st.msg.fc = m.fc) {quantity : UInt16}
    (hquantity : quantity ≤ 125)
    (hcell : st.gotMessage.msg.buf 8 = UInt8.ofNat (quantity.toNat * 2))
    (registers : Cells UInt16) (Q : NmbsError × Cells UInt16 → Nmbs σ → Prop) :
    Wp H (recvReadRegistersRes quantity registers) Q st ↔
      Q (.none, fun j => if j < quantity.toNat then st.gotMessage.wordAt (9 + 2 * j)
          else registers j) (st.gotMessage.seek (9 + 2 * quantity.toNat)) := by
  have hcomplete : st.gotMessage.msg.complete = true := rfl
  have hle : quantity.toNat ≤ 125 := hquantity
  have htoNat : (UInt8.ofNat (quantity.toNat * 2)).toNat = quantity.toNat * 2 := by
    rw [UInt8.toNat_ofNat']
    omega
  have hsmall : ¬ (250 < UInt8.ofNat (quantity.toNat * 2) ∨
      (UInt8.ofNat (quantity.toNat * 2)).toNat ≠ quantity.toNat * 2) := by
    have hlimit : (250 : UInt8).toNat = 250 := rfl
    rw [UInt8.lt_iff_toNat_lt, htoNat, hlimit]
    omega
  have hfit : 9 + 2 * quantity.toNat ≤ msgBufSize := by
    unfold msgBufSize
    omega
  have hhalf : quantity.toNat * 2 / 2 = quantity.toNat := Nat.mul_div_cancel _ Nat.two_pos
  rw [recvReadRegistersRes, wp_bind, wp_recvResHeader_heard h htransactionId hfc,
    if_neg (by decide), wp_bind, wp_recv hcomplete, if_neg (by decide), wp_bind,
    wp_get1 (by decide), hcell, if_neg hsmall, wp_bind, wp_recv hcomplete, if_neg (by decide),
    wp_bind, htoNat, hhalf, wp_getRegisters registers 0 quantity.toNat hfit, wp_pure]
  simp only [Nat.zero_le, true_and, Nat.zero_add, Nat.sub_zero]

theorem wp_recvWriteRes_heard (hfc : st.msg.fc = m.fc) {address value : UInt16}
    (haddress : st.gotMessage.wordAt 8 = address) (hvalue : st.gotMessage.wordAt 10 = value)
    (Q : NmbsError → Nmbs σ → Prop) :
    Wp H (recvWriteRes address value) Q st ↔ Q .none (st.gotMessage.seek 12) := by
  have hcomplete : st.gotMessage.msg.complete = true := rfl
  rw [recvWriteRes, wp_bind, wp_recvResHeader_heard h htransactionId hfc, if_neg (by decide),
    wp_recv_pass hcomplete, wp_bind, wp_get2 (by decide), wp_bind, wp_get2 (by decide), haddress,
    hvalue, if_neg (not_not.mpr rfl), if_neg (not_not.mpr rfl), wp_pure]

end Response

end DriveSim
