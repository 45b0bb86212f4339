import DriveSim.Lib.Relational
import DriveSim.Nmbs.Handlers
import Mathlib.Data.Option.Basic

/-!
# The library does not look at the user data

nanoMODBUS hands the user data on to the callbacks and looks at nothing but what they
return.  Two servers whose callbacks cannot be told apart, on user data related by `R`,
therefore read, answer and fail alike, whatever their peer sends.
-/

namespace DriveSim

open Lib Program

variable {σ τ : Type*}

/-! ## Callbacks that cannot be told apart -/

section Callbacks

variable (R : σ → τ → Prop)

def WriteAgrees {ι κ : Type*} (f : ι → κ → UInt8 → σ → NmbsError × σ)
    (g : ι → κ → UInt8 → τ → NmbsError × τ) : Prop :=
  ∀ i k unitId s t, R s t → (f i k unitId s).1 = (g i k unitId t).1 ∧
    R (f i k unitId s).2 (g i k unitId t).2

def WriteManyAgrees {α : Type*} (f : UInt16 → UInt16 → Cells α → UInt8 → σ → NmbsError × σ)
    (g : UInt16 → UInt16 → Cells α → UInt8 → τ → NmbsError × τ) : Prop :=
  ∀ address, WriteAgrees R (f address) (g address)

def ReadAgrees {α : Type*} (f : UInt16 → UInt16 → Cells α → UInt8 → σ → NmbsError × Cells α × σ)
    (g : UInt16 → UInt16 → Cells α → UInt8 → τ → NmbsError × Cells α × τ) : Prop :=
  ∀ address quantity out unitId s t, R s t →
    (f address quantity out unitId s).1 = (g address quantity out unitId t).1 ∧
    (f address quantity out unitId s).2.1 = (g address quantity out unitId t).2.1 ∧
    R (f address quantity out unitId s).2.2 (g address quantity out unitId t).2.2

structure CallbacksAgree (f : NmbsCallbacks σ) (g : NmbsCallbacks τ) : Prop where
  readCoils : Option.Rel (ReadAgrees R) f.readCoils g.readCoils
  readDiscreteInputs : Option.Rel (ReadAgrees R) f.readDiscreteInputs g.readDiscreteInputs
  readHoldingRegisters : Option.Rel (ReadAgrees R) f.readHoldingRegisters g.readHoldingRegisters
  readInputRegisters : Option.Rel (ReadAgrees R) f.readInputRegisters g.readInputRegisters
  writeSingleCoil : Option.Rel (WriteAgrees R) f.writeSingleCoil g.writeSingleCoil
  writeSingleRegister : Option.Rel (WriteAgrees R) f.writeSingleRegister g.writeSingleRegister
  writeMultipleCoils : Option.Rel (WriteManyAgrees R) f.writeMultipleCoils g.writeMultipleCoils
  writeMultipleRegisters :
    Option.Rel (WriteManyAgrees R) f.writeMultipleRegisters g.writeMultipleRegisters

/-- Two servers that differ at most in their user data. -/
structure Paired (s : Nmbs σ) (t : Nmbs τ) : Prop where
  msg_eq : s.msg = t.msg
  byteTimeout_eq : s.byteTimeoutMs = t.byteTimeoutMs
  readTimeout_eq : s.readTimeoutMs = t.readTimeoutMs
  conn_eq : s.conn = t.conn
  callbacks : CallbacksAgree R s.callbacks t.callbacks
  arg : R s.arg t.arg

end Callbacks

variable {R : σ → τ → Prop}

namespace Paired

variable {s : Nmbs σ} {t : Nmbs τ}

theorem withMsg (h : Paired R s t) {msg msg' : NmbsMsg} (hmsg : msg = msg') :
    Paired R { s with msg := msg } { t with msg := msg' } := by
  subst hmsg
  exact ⟨rfl, h.byteTimeout_eq, h.readTimeout_eq, h.conn_eq, h.callbacks, h.arg⟩

theorem withByteTimeout (h : Paired R s t) {ms ms' : Int} (hms : ms = ms') :
    Paired R (s.setByteTimeout ms) (t.setByteTimeout ms') :=
  ⟨h.msg_eq, hms, h.readTimeout_eq, h.conn_eq, h.callbacks, h.arg⟩

theorem withConn (h : Paired R s t) (conn : Conn) : Paired R (s.setConn conn) (t.setConn conn) :=
  ⟨h.msg_eq, h.byteTimeout_eq, h.readTimeout_eq, rfl, h.callbacks, h.arg⟩

theorem withArg (h : Paired R s t) {arg : σ} {arg' : τ} (harg : R arg arg') :
    Paired R (s.setArg arg) (t.setArg arg') :=
  ⟨h.msg_eq, h.byteTimeout_eq, h.readTimeout_eq, h.conn_eq, h.callbacks, harg⟩

theorem seek (h : Paired R s t) (n : Nat) : Paired R (s.seek n) (t.seek n) :=
  h.withMsg (by rw [h.msg_eq])

theorem setBuf (h : Paired R s t) (buf : Cells UInt8) : Paired R (s.setBuf buf) (t.setBuf buf) :=
  h.withMsg (by rw [h.msg_eq])

end Paired

/-! ## Messages -/

section Messages

theorem inStep_get1 : InStep (Paired R) get1 get1 := by
  intro s t h
  rw [get1, get1, h.msg_eq]
  split
  · exact .returned _ (h.seek _)
  · exact .halted _

theorem inStep_put1 (data : UInt8) : InStep (Paired R) (put1 data) (put1 data) := by
  intro s t h
  rw [put1, put1, h.msg_eq]
  split
  · exact .returned _ ((h.setBuf _).seek _)
  · exact .halted _

theorem inStep_discardN (n : Nat) : InStep (Paired R) (discardN n) (discardN n) := by
  apply InStep.modify
  intro s t h
  rw [h.msg_eq]
  exact h.seek _

theorem inStep_seek (n : Nat) :
    InStep (Paired R) (Program.modify fun st => st.seek n) (Program.modify fun st => st.seek n) :=
  .modify fun _ _ h => h.seek n

theorem inStep_get2 : InStep (Paired R) get2 get2 :=
  inStep_get1.bind fun _ => inStep_get1.bind fun _ => .pure _

theorem inStep_put2 (data : UInt16) : InStep (Paired R) (put2 data) (put2 data) :=
  (inStep_put1 _).bind fun _ => inStep_put1 _

theorem inStep_getBytes (cells : Cells UInt8) (i n : Nat) :
    InStep (Paired R) (getBytes cells i n) (getBytes cells i n) := by
  induction n generalizing cells i with
  | zero => exact .pure _
  | succ n ih => exact inStep_get1.bind fun _ => ih _ _

theorem inStep_getRegisters (cells : Cells UInt16) (i n : Nat) :
    InStep (Paired R) (getRegisters cells i n) (getRegisters cells i n) := by
  induction n generalizing cells i with
  | zero => exact .pure _
  | succ n ih => exact inStep_get2.bind fun _ => ih _ _

theorem inStep_putBytes (cells : Cells UInt8) (i n : Nat) :
    InStep (Paired R) (putBytes cells i n) (putBytes cells i n) := by
  induction n generalizing i with
  | zero => exact .pure _
  | succ n ih => exact (inStep_put1 _).bind fun _ => ih _

theorem inStep_putRegisters (cells : Cells UInt16) (i n : Nat) :
    InStep (Paired R) (putRegisters cells i n) (putRegisters cells i n) := by
  induction n generalizing i with
  | zero => exact .pure _
  | succ n ih => exact (inStep_put2 _).bind fun _ => ih _

theorem inStep_getRegs (n : Nat) : InStep (Paired R) (getRegs n) (getRegs n) := by
  intro s t h
  rw [getRegs, getRegs, h.msg_eq]
  split
  · exact .halted _
  · exact .returned _ ((h.setBuf _).seek _)

theorem inStep_recv (count : Nat) : InStep (Paired R) (recv count) (recv count) := by
  intro s t h
  rw [recv, recv, h.msg_eq, h.conn_eq, h.byteTimeout_eq]
  split
  · exact .returned _ h
  · cases modbusTransportRead t.conn count t.byteTimeoutMs with
    | none => exact .halted _
    | some result =>
        dsimp only
        split
        · exact .halted _
        · exact .returned _ ((h.withConn _).setBuf _)

theorem inStep_send (count : Nat) : InStep (Paired R) (send count) (send count) := by
  intro s t h
  rw [send, send, h.msg_eq, h.conn_eq]
  split
  · exact .halted _
  · cases modbusTransportWrite t.conn (messageBytes t.msg.buf count) with
    | none => exact .halted _
    | some r => exact .returned _ (h.withConn r.2)

theorem inStep_flush : InStep (Paired R) flush flush := by
  intro s t h
  rw [flush, flush, h.msg_eq, h.conn_eq]
  cases modbusTransportRead t.conn msgBufSize 0 with
  | none => exact .halted _
  | some result => exact .returned _ ((h.withConn _).setBuf _)

theorem inStep_msgBufReset : InStep (Paired R) msgBufReset msgBufReset := inStep_seek 0

theorem inStep_msgStateReset : InStep (Paired R) msgStateReset msgStateReset := by
  apply InStep.modify
  intro s t h
  rw [h.msg_eq]
  exact h.withMsg rfl

theorem inStep_putMsgHeader (dataLength : UInt16) :
    InStep (Paired R) (putMsgHeader dataLength) (putMsgHeader dataLength) := by
  apply inStep_msgBufReset.bind
  intro _
  apply InStep.withState
  intro s t h
  rw [h.msg_eq]
  exact (inStep_put2 _).bind fun _ => (inStep_put2 _).bind fun _ => (inStep_put2 _).bind fun _ =>
    (inStep_put1 _).bind fun _ => inStep_put1 _

theorem inStep_sendMsg : InStep (Paired R) sendMsg sendMsg := by
  apply InStep.withState
  intro s t h
  rw [h.msg_eq]
  exact inStep_send _

theorem inStep_sendExceptionMsg (exception : NmbsError) :
    InStep (Paired R) (sendExceptionMsg exception) (sendExceptionMsg exception) := by
  refine .bind (.modify fun s t h => ?_) fun _ =>
    (inStep_putMsgHeader 1).bind fun _ => (inStep_put1 _).bind fun _ => inStep_sendMsg
  exact h.withMsg (by rw [h.msg_eq])

theorem inStep_recv_then {α : Type} (count : Nat) (f : NmbsError → α) {x : NmbsM σ α}
    {y : NmbsM τ α} (hxy : InStep (Paired R) x y) :
    InStep (Paired R)
      (do
        let err ← recv count
        if err ≠ .none then return f err
        x)
      (do
        let err ← recv count
        if err ≠ .none then return f err
        y) :=
  (inStep_recv count).bind fun _ => .ite _ (.pure _) hxy

theorem inStep_recvMsgHeader : InStep (Paired R) recvMsgHeader recvMsgHeader := by
  apply InStep.withState
  intro start start' hstart
  rw [hstart.byteTimeout_eq]
  refine .bind (.modify fun s t h => h.withByteTimeout h.readTimeout_eq) fun _ => ?_
  refine inStep_msgStateReset.bind fun _ => (inStep_recv 1).bind fun _ => ?_
  refine .bind (.modify fun s t h => h.withByteTimeout rfl) fun _ => .ite _ (.pure _) ?_
  refine (inStep_discardN 1).bind fun _ => inStep_recv_then 7 _ ?_
  refine inStep_msgBufReset.bind fun _ => inStep_get2.bind fun _ => inStep_get2.bind fun _ => ?_
  refine inStep_get2.bind fun _ => inStep_get1.bind fun _ => inStep_get1.bind fun _ => ?_
  refine .bind (.modify fun s t h => h.withMsg (by rw [h.msg_eq])) fun _ => .ite _ (.pure _) ?_
  refine inStep_recv_then _ _ (.ite _ (.pure _) ?_)
  exact .bind (.modify fun s t h => h.withMsg (by rw [h.msg_eq])) fun _ => .pure _

end Messages

/-! ## Requests -/

section Requests

theorem inStep_runCallback {α : Type} {f : UInt8 → σ → α × σ} {g : UInt8 → τ → α × τ}
    (h : ∀ unitId s t, R s t → (f unitId s).1 = (g unitId t).1 ∧
      R (f unitId s).2 (g unitId t).2) :
    InStep (Paired R) (runCallback f) (runCallback g) := by
  intro s t hst
  obtain ⟨hresult, harg⟩ := h s.msg.unitId s.arg t.arg hst.arg
  rw [runCallback, runCallback, hresult]
  rw [hst.msg_eq] at harg ⊢
  exact .returned _ (hst.withArg harg)

theorem inStep_runReadCallback {α : Type}
    {f : UInt16 → UInt16 → Cells α → UInt8 → σ → NmbsError × Cells α × σ}
    {g : UInt16 → UInt16 → Cells α → UInt8 → τ → NmbsError × Cells α × τ}
    (h : ReadAgrees R f g) (address quantity : UInt16) (cells : Cells α) :
    InStep (Paired R) (runReadCallback f address quantity cells)
      (runReadCallback g address quantity cells) := by
  apply inStep_runCallback
  intro unitId s t hst
  obtain ⟨herr, hout, harg⟩ := h address quantity cells unitId s t hst
  exact ⟨Prod.ext herr hout, harg⟩

theorem inStep_answerWrite (err : NmbsError) (address word : UInt16) :
    InStep (Paired R) (answerWrite err address word) (answerWrite err address word) :=
  .ite _ (inStep_sendExceptionMsg _) ((inStep_putMsgHeader 4).bind fun _ =>
    (inStep_put2 _).bind fun _ => (inStep_put2 _).bind fun _ => inStep_sendMsg)

theorem inStep_answerData (bytes : Nat) {put : NmbsM σ Unit} {put' : NmbsM τ Unit}
    (hput : InStep (Paired R) put put') :
    InStep (Paired R)
      (do
        putMsgHeader (UInt16.ofNat (1 + bytes))
        put1 (UInt8.ofNat bytes)
        put
        sendMsg)
      (do
        putMsgHeader (UInt16.ofNat (1 + bytes))
        put1 (UInt8.ofNat bytes)
        put'
        sendMsg) :=
  (inStep_putMsgHeader _).bind fun _ => (inStep_put1 _).bind fun _ => hput.bind fun _ =>
    inStep_sendMsg

theorem inStep_handleReadDiscrete {f : Option (ReadBits σ)} {g : Option (ReadBits τ)}
    (h : Option.Rel (ReadAgrees R) f g) :
    InStep (Paired R) (handleReadDiscrete f) (handleReadDiscrete g) := by
  refine inStep_recv_then 4 _ (inStep_get2.bind fun address => inStep_get2.bind fun quantity => ?_)
  refine .ite _ (inStep_sendExceptionMsg _) (.ite _ (inStep_sendExceptionMsg _) ?_)
  cases h with
  | none => exact inStep_sendExceptionMsg _
  | some h =>
      refine (inStep_runReadCallback h address quantity _).bind fun result => ?_
      exact .ite _ (inStep_sendExceptionMsg _) (inStep_answerData _ (inStep_putBytes _ _ _))

theorem inStep_handleReadRegisters {f : Option (ReadRegisters σ)} {g : Option (ReadRegisters τ)}
    (h : Option.Rel (ReadAgrees R) f g) :
    InStep (Paired R) (handleReadRegisters f) (handleReadRegisters g) := by
  refine inStep_recv_then 4 _ (inStep_get2.bind fun address => inStep_get2.bind fun quantity => ?_)
  refine .ite _ (inStep_sendExceptionMsg _) (.ite _ (inStep_sendExceptionMsg _) ?_)
  cases h with
  | none => exact inStep_sendExceptionMsg _
  | some h =>
      refine (inStep_runReadCallback h address quantity _).bind fun result => ?_
      exact .ite _ (inStep_sendExceptionMsg _) (inStep_answerData _ (inStep_putRegisters _ _ _))

theorem inStep_handleWriteSingleCoil :
    InStep (Paired R) handleWriteSingleCoil handleWriteSingleCoil := by
  apply InStep.withState
  intro s t hst
  refine inStep_recv_then 4 _ (inStep_get2.bind fun address => inStep_get2.bind fun value => ?_)
  obtain hcallback := hst.callbacks.writeSingleCoil
  generalize s.callbacks.writeSingleCoil = f, t.callbacks.writeSingleCoil = g at hcallback
  cases hcallback with
  | none => exact inStep_sendExceptionMsg _
  | some h =>
      refine .ite _ (inStep_sendExceptionMsg _) ?_
      exact (inStep_runCallback (h address _)).bind fun _ => inStep_answerWrite _ _ _

theorem inStep_handleWriteSingleRegister :
    InStep (Paired R) handleWriteSingleRegister handleWriteSingleRegister := by
  apply InStep.withState
  intro s t hst
  refine inStep_recv_then 4 _ (inStep_get2.bind fun address => inStep_get2.bind fun value => ?_)
  obtain hcallback := hst.callbacks.writeSingleRegister
  generalize s.callbacks.writeSingleRegister = f, t.callbacks.writeSingleRegister = g at hcallback
  cases hcallback with
  | none => exact inStep_sendExceptionMsg _
  | some h => exact (inStep_runCallback (h address _)).bind fun _ => inStep_answerWrite _ _ _

theorem inStep_handleWriteMultipleCoils :
    InStep (Paired R) handleWriteMultipleCoils handleWriteMultipleCoils := by
  apply InStep.withState
  intro s t hst
  refine inStep_recv_then 5 _ (inStep_get2.bind fun address => inStep_get2.bind fun quantity =>
    inStep_get1.bind fun coilsBytes => .ite _ (.pure _) (inStep_recv_then _ _ ?_))
  refine (inStep_getBytes _ _ _).bind fun coils => ?_
  refine .ite _ (inStep_sendExceptionMsg _) (.ite _ (inStep_sendExceptionMsg _) ?_)
  refine .ite _ (inStep_sendExceptionMsg _) (.ite _ (inStep_sendExceptionMsg _) ?_)
  obtain hcallback := hst.callbacks.writeMultipleCoils
  generalize s.callbacks.writeMultipleCoils = f, t.callbacks.writeMultipleCoils = g at hcallback
  cases hcallback with
  | none => exact inStep_sendExceptionMsg _
  | some h =>
      exact (inStep_runCallback (h address quantity _)).bind fun _ => inStep_answerWrite _ _ _

theorem inStep_handleWriteMultipleRegisters :
    InStep (Paired R) handleWriteMultipleRegisters handleWriteMultipleRegisters := by
  apply InStep.withState
  intro s t hst
  refine inStep_recv_then 5 _ (inStep_get2.bind fun address => inStep_get2.bind fun quantity =>
    inStep_get1.bind fun registersBytes => inStep_recv_then _ _ (.ite _ (.pure _) ?_))
  refine (inStep_getRegisters _ _ _).bind fun registers => ?_
  refine .ite _ (inStep_sendExceptionMsg _) (.ite _ (inStep_sendExceptionMsg _) ?_)
  refine .ite _ (inStep_sendExceptionMsg _) (.ite _ (inStep_sendExceptionMsg _) ?_)
  obtain hcallback := hst.callbacks.writeMultipleRegisters
  generalize s.callbacks.writeMultipleRegisters = f,
    t.callbacks.writeMultipleRegisters = g at hcallback
  cases hcallback with
  | none => exact inStep_sendExceptionMsg _
  | some h =>
      exact (inStep_runCallback (h address quantity _)).bind fun _ => inStep_answerWrite _ _ _

theorem inStep_getSubrequest : InStep (Paired R) getSubrequest getSubrequest :=
  inStep_get1.bind fun _ => inStep_get2.bind fun _ => inStep_get2.bind fun _ =>
    inStep_get2.bind fun _ => .pure _

theorem inStep_getSubrequests (n : Nat) :
    InStep (Paired R) (getSubrequests n) (getSubrequests n) := by
  induction n with
  | zero => exact .pure _
  | succ n ih => exact inStep_getSubrequest.bind fun _ => ih.bind fun _ => .pure _

theorem inStep_handleReadFileRecord :
    InStep (Paired R) handleReadFileRecord handleReadFileRecord := by
  refine inStep_recv_then 1 _ (inStep_get1.bind fun requestSize => .ite _ (.pure _) ?_)
  refine inStep_recv_then _ _ ((inStep_getSubrequests _).bind fun subreqs =>
    (inStep_discardN _).bind fun _ => ?_)
  refine .ite _ (inStep_sendExceptionMsg _) (.ite _ (inStep_sendExceptionMsg _) ?_)
  refine .ite _ (inStep_sendExceptionMsg _) ?_
  exact (inStep_putMsgHeader _).bind fun _ => (inStep_put1 _).bind fun _ =>
    inStep_sendExceptionMsg _

theorem inStep_checkSubrequests (rounds : Nat) (size : UInt16) :
    InStep (Paired R) (checkSubrequests rounds size) (checkSubrequests rounds size) := by
  induction rounds generalizing size with
  | zero => exact .halt _
  | succ rounds ih =>
      exact inStep_getSubrequest.bind fun subreq => (inStep_discardN _).bind fun _ =>
        .ite _ (.pure _) (.ite _ (ih _) (.pure _))

theorem inStep_handleWriteFileRecord :
    InStep (Paired R) handleWriteFileRecord handleWriteFileRecord := by
  refine inStep_recv_then 1 _ (inStep_get1.bind fun requestSize => .ite _ (.pure _) ?_)
  refine inStep_recv_then _ _ (.withState fun s t hst => ?_)
  rw [hst.msg_eq]
  refine (inStep_discardN _).bind fun _ => (inStep_seek _).bind fun _ =>
    .ite _ (inStep_sendExceptionMsg _) ((inStep_checkSubrequests _ _).bind fun size => ?_)
  cases size with
  | none => exact inStep_sendExceptionMsg _
  | some size =>
      exact .ite _ (inStep_sendExceptionMsg _) ((inStep_seek _).bind fun _ =>
        inStep_getSubrequest.bind fun subreq => (inStep_getRegs _).bind fun _ =>
          inStep_sendExceptionMsg _)

theorem inStep_handleReadWriteRegisters :
    InStep (Paired R) handleReadWriteRegisters handleReadWriteRegisters := by
  apply InStep.withState
  intro s t hst
  refine inStep_recv_then 9 _ (inStep_get2.bind fun readAddress =>
    inStep_get2.bind fun readQuantity => inStep_get2.bind fun writeAddress =>
    inStep_get2.bind fun writeQuantity => inStep_get1.bind fun byteCountWrite =>
    .ite _ (.pure _) (inStep_recv_then _ _ ?_))
  refine (inStep_getRegisters _ _ _).bind fun registers => ?_
  refine .ite _ (inStep_sendExceptionMsg _) (.ite _ (inStep_sendExceptionMsg _) ?_)
  refine .ite _ (inStep_sendExceptionMsg _) (.ite _ (inStep_sendExceptionMsg _) ?_)
  refine .ite _ (inStep_sendExceptionMsg _) ?_
  obtain hwrite := hst.callbacks.writeMultipleRegisters
  obtain hread := hst.callbacks.readHoldingRegisters
  generalize s.callbacks.writeMultipleRegisters = f,
    t.callbacks.writeMultipleRegisters = g at hwrite
  generalize s.callbacks.readHoldingRegisters = f', t.callbacks.readHoldingRegisters = g' at hread
  cases hwrite with
  | none => exact inStep_sendExceptionMsg _
  | some hwrite =>
      cases hread with
      | none => exact inStep_sendExceptionMsg _
      | some hread =>
          -- the user data may change between the two halves
          refine (inStep_runCallback (hwrite writeAddress writeQuantity _)).bind fun _ => ?_
          refine .ite _ (inStep_sendExceptionMsg _) ?_
          refine (inStep_runReadCallback hread readAddress readQuantity _).bind fun result => ?_
          exact .ite _ (inStep_sendExceptionMsg _) (inStep_answerData _ (inStep_putRegisters _ _ _))

theorem inStep_handleReadDeviceIdentification :
    InStep (Paired R) handleReadDeviceIdentification handleReadDeviceIdentification :=
  inStep_recv_then 3 _ (inStep_get1.bind fun _ => inStep_get1.bind fun _ =>
    inStep_get1.bind fun _ => inStep_sendExceptionMsg _)

theorem inStep_handleReqFc : InStep (Paired R) handleReqFc handleReqFc := by
  apply InStep.withState
  intro s t hst
  rw [hst.msg_eq]
  split
  · exact .withState fun s t hst => inStep_handleReadDiscrete hst.callbacks.readCoils
  · exact .withState fun s t hst => inStep_handleReadDiscrete hst.callbacks.readDiscreteInputs
  · exact .withState fun s t hst => inStep_handleReadRegisters hst.callbacks.readHoldingRegisters
  · exact .withState fun s t hst => inStep_handleReadRegisters hst.callbacks.readInputRegisters
  · exact inStep_handleWriteSingleCoil
  · exact inStep_handleWriteSingleRegister
  · exact inStep_handleWriteMultipleCoils
  · exact inStep_handleWriteMultipleRegisters
  · exact inStep_handleReadFileRecord
  · exact inStep_handleWriteFileRecord
  · exact inStep_handleReadWriteRegisters
  · exact inStep_handleReadDeviceIdentification
  · exact inStep_flush.bind fun _ => inStep_sendExceptionMsg _

/-- A poll receives, answers and fails alike on both sides. -/
theorem inStep_nmbsServerPoll : InStep (Paired R) nmbsServerPoll nmbsServerPoll := by
  refine inStep_msgStateReset.bind fun _ => inStep_recvMsgHeader.bind fun result => ?_
  refine .ite _ (.ite _ (.pure _) (.pure _)) (inStep_handleReqFc.bind fun err => ?_)
  exact .ite _ (.ite _ (inStep_flush.bind fun _ => .pure _) (.pure _)) (.pure _)

end Requests

end DriveSim
