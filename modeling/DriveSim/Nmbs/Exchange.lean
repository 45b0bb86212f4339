import DriveSim.Nmbs.Poll
import DriveSim.Nmbs.Replies

/-!
# What a poll does

A poll leaves the user data alone and sends nothing, or it has taken one whole message from
its peer; then it has done to the user data what the reply to this message does, and has
sent the answer, byte for byte, unless the peer can no longer be reached.
-/

namespace DriveSim

open Lib Program Nmbs

variable {σ : Type*}

/-! ## Handling a message -/

section Dispatch

variable {H : Halt → Prop} {st : Nmbs σ}

theorem wp_flush_at (hblocked : modbusTransportRead st.conn msgBufSize 0 = none → H .running)
    {Q : Unit → Nmbs σ → Prop}
    (hQ : ∀ result, modbusTransportRead st.conn msgBufSize 0 = some result →
      ∀ buf, Q () ((st.setConn result.conn).setBuf buf)) :
    Wp H flush Q st := by
  unfold Wp flush
  cases hread : modbusTransportRead st.conn msgBufSize 0 with
  | none => exact hblocked hread
  | some result => exact hQ result hread _

theorem wp_answered {fc : Nat} (hfc : st.msg.fc.toNat = fc) (hsupported : fc ∈ supportedFcs)
    {x : NmbsM σ NmbsError} (hx : Wp H x (Answered st (st.replyFor fc)) st) :
    Wp H x (fun err st' => ∃ conn, st.AnswersOn conn ∧
      Answered (st.setConn conn) st.reply err st') st := by
  subst hfc
  apply wp_mono hx
  intro err st' hanswered
  exact ⟨st.conn, by rw [AnswersOn, if_pos hsupported], hanswered⟩

theorem reply_of_unsupported (hfc : st.msg.fc.toNat ∉ supportedFcs) :
    st.reply = (.exception .illegalFunction, st.arg) := by
  unfold reply replyFor
  split
  case h_12 => rfl
  all_goals
    rename_i hcase
    rw [hcase] at hfc
    exact absurd (by decide) hfc

theorem wp_handleReqFc_answered (hst : st.Ready)
    (hscan : ¬ st.Malformed → ¬ st.ScanFits → H .undefined)
    (hblocked : st.msg.fc.toNat ∉ supportedFcs →
      modbusTransportRead st.conn msgBufSize 0 = none → H .running)
    (hblocks : st.conn.SendBlocks → H .running) :
    Wp H handleReqFc (fun err st' => ∃ conn, st.AnswersOn conn ∧
      Answered (st.setConn conn) st.reply err st') st := by
  rw [handleReqFc, wp_withState]
  split
  case h_1 hfc => exact wp_answered hfc (by decide) (wp_handleReadDiscrete_answered hblocks hst _)
  case h_2 hfc => exact wp_answered hfc (by decide) (wp_handleReadDiscrete_answered hblocks hst _)
  case h_3 hfc => exact wp_answered hfc (by decide) (wp_handleReadRegisters_answered hblocks hst _)
  case h_4 hfc => exact wp_answered hfc (by decide) (wp_handleReadRegisters_answered hblocks hst _)
  case h_5 hfc => exact wp_answered hfc (by decide) (wp_handleWriteSingleCoil_answered hblocks hst)
  case h_6 hfc =>
    exact wp_answered hfc (by decide) (wp_handleWriteSingleRegister_answered hblocks hst)
  case h_7 hfc =>
    exact wp_answered hfc (by decide) (wp_handleWriteMultipleCoils_answered hblocks hst)
  case h_8 hfc =>
    exact wp_answered hfc (by decide) (wp_handleWriteMultipleRegisters_answered hblocks hst)
  case h_9 hfc => exact wp_answered hfc (by decide) (wp_handleReadFileRecord_answered hblocks hst)
  case h_10 hfc =>
    apply wp_answered hfc (by decide) (wp_handleWriteFileRecord_answered hblocks hst _)
    intro hbytes hsize hfit
    apply hscan (by rwa [Malformed, hfc])
    intro hscan'
    rw [hscan' hfc hsize] at hfit
    exact Bool.noConfusion hfit
  case h_11 hfc =>
    exact wp_answered hfc (by decide) (wp_handleReadWriteRegisters_answered hblocks hst)
  case h_12 hfc =>
    exact wp_answered hfc (by decide) (wp_handleReadDeviceIdentification_answered hblocks hst)
  case h_13 h1 h2 h3 h4 h5 h6 h15 h16 h20 h21 h23 h43 =>
    have hfc : st.msg.fc.toNat ∉ supportedFcs := by
      simp only [supportedFcs, List.mem_cons, List.not_mem_nil, or_false]
      rintro (h | h | h | h | h | h | h | h | h | h | h | h)
      all_goals contradiction
    rw [wp_bind]
    apply wp_flush_at (hblocked hfc)
    intro result hread buf
    have hframed : Framed (st.setConn result.conn) ((st.setConn result.conn).setBuf buf) :=
      ⟨rfl, rfl, rfl, rfl, rfl⟩
    have hanswers : st.AnswersOn result.conn := by
      rw [AnswersOn, if_neg hfc]
      exact ⟨result, hread, rfl⟩
    apply wp_mono (wp_sendExceptionMsg_sent hframed rfl rfl rfl .illegalFunction
      (hanswers.sendBlocks hblocks))
    intro err st' hsent
    exact ⟨result.conn, hanswers, by rw [reply_of_unsupported hfc]; exact hsent⟩

end Dispatch

/-! ## Receiving a message -/

structure Quiet (st st' : Nmbs σ) : Prop where
  written_eq : st'.conn.written = st.conn.written
  sends_eq : st'.conn.sends = st.conn.sends
  arg_eq : st'.arg = st.arg
  callbacks_eq : st'.callbacks = st.callbacks
  byteTimeout_eq : st'.byteTimeoutMs = st.byteTimeoutMs
  readTimeout_eq : st'.readTimeoutMs = st.readTimeoutMs

theorem Quiet.trans {st st₁ st₂ : Nmbs σ} (h : Quiet st st₁) (h₂ : Quiet st₁ st₂) :
    Quiet st st₂ :=
  ⟨h₂.1.trans h.1, h₂.2.trans h.2, h₂.3.trans h.3, h₂.4.trans h.4, h₂.5.trans h.5, h₂.6.trans h.6⟩

def Nmbs.received (st : Nmbs σ) : Nmbs σ := st.setMsg (st.messageAfter (8 + st.bodyLength) true)

/-- A whole message comes, and it is one for this library. -/
structure Nmbs.Arrives (st : Nmbs σ) : Prop where
  header : st.HeaderArrives
  length : 2 ≤ st.lengthField ∧ st.lengthField ≤ 255
  body : st.BodyArrives
  protocolId_eq : st.protocolId = 0

instance (st : Nmbs σ) : Decidable st.Arrives :=
  decidable_of_iff (st.HeaderArrives ∧ (2 ≤ st.lengthField ∧ st.lengthField ≤ 255) ∧
      st.BodyArrives ∧ st.protocolId = 0)
    ⟨fun h => ⟨h.1, h.2.1, h.2.2.1, h.2.2.2⟩, fun h => ⟨h.1, h.2, h.3, h.4⟩⟩

/-- The next message does not fit the buffer, or its sub-requests lead out of it. -/
def Nmbs.Overruns (st : Nmbs σ) : Prop :=
  (st.HeaderArrives ∧ (2 ≤ st.lengthField ∧ st.lengthField ≤ 255) ∧
    msgBufSize < 8 + st.bodyLength ∧
    (st.conn.incoming.drop 8).ArrivesWithin st.byteLimit st.bodyLength) ∨
  (st.Arrives ∧ ¬ st.received.Malformed ∧ ¬ st.received.ScanFits)

def Nmbs.StaysDefined (st : Nmbs σ) (halted : Halt) : Prop := halted = .undefined → st.Overruns

theorem Nmbs.staysDefined_running (st : Nmbs σ) : st.StaysDefined .running :=
  fun hrunning => Halt.noConfusion hrunning

section Receiving

variable {st : Nmbs σ} {count : Nat}

theorem elements_of_read {conn : Conn} {byteTimeoutMs : Int} {result : ReadResult}
    (h : modbusTransportRead conn count byteTimeoutMs = some result) :
    conn.incoming.elements = result.bytes ++ result.conn.incoming.elements := by
  obtain ⟨_, rfl⟩ := result_of_read h
  obtain rfl | hcount := Nat.eq_zero_or_pos count
  · have hawaited : conn.incoming.Awaited (conn.readLimit byteTimeoutMs)
        ((conn.withTimeout byteTimeoutMs).reception 0) :=
      TimedStream.awaited conn.incoming (conn.readLimit byteTimeoutMs)
    exact hawaited.elements_eq.symm
  · exact (received_of_pos conn byteTimeoutMs hcount).elements_eq.symm

/-- A `recv` that succeeds has read all its bytes, and one that waited for a single byte in
vain has taken none. -/
theorem wp_recv_first {H : Halt → Prop} (hrunning : H .running)
    (hcomplete : st.msg.complete = false) (hcount : 0 < count)
    (hroom : st.msg.bufIdx + count ≤ msgBufSize + 1)
    (hoverflow : msgBufSize < st.msg.bufIdx + count →
      st.conn.incoming.ArrivesWithin (st.conn.readLimit st.byteTimeoutMs) count → H .undefined) :
    Wp H (recv count) (fun err st' => Quiet st st' ∧
      (err = .none →
        st.conn.incoming.ArrivesWithin (st.conn.readLimit st.byteTimeoutMs) count ∧
        st.msg.bufIdx + count ≤ msgBufSize ∧
        st' = (st.setConn (st.conn.advance st.byteTimeoutMs count)).setBuf
          (storeAt st.msg.buf st.msg.bufIdx (st.conn.incoming.elements.take count))) ∧
      (err ≠ .none → count = 1 →
        st'.conn.incoming.elements = st.conn.incoming.elements)) st := by
  by_cases harrives :
      st.conn.incoming.ArrivesWithin (st.conn.readLimit st.byteTimeoutMs) count
  · by_cases hfit : st.msg.bufIdx + count ≤ msgBufSize
    · rw [wp_recv_arrives hcomplete hcount hfit harrives]
      exact ⟨⟨rfl, rfl, rfl, rfl, rfl, rfl⟩, fun _ => ⟨harrives, hfit, rfl⟩,
        fun hfailed => absurd rfl hfailed⟩
    · rw [wp_recv_overflow hcomplete hcount (not_le.mp hfit) harrives]
      exact hoverflow (not_le.mp hfit) harrives
  · unfold Wp recv
    rw [if_neg (by rw [hcomplete]; decide)]
    cases hread : modbusTransportRead st.conn count st.byteTimeoutMs with
    | none => exact hrunning
    | some result =>
        have hsent := sent_of_read hread
        have hfailed : transportError result.value count ≠ .none ∧ result.bytes.length < count := by
          by_cases hcut : CutOff st.conn.incoming (st.conn.readLimit st.byteTimeoutMs) count
          · obtain ⟨hvalue, hbytes⟩ := read_of_cutOff hcount hcut hread
            rw [hvalue, hbytes, transportError_neg]
            exact ⟨by decide, hcount⟩
          · obtain ⟨result', hread', hvalue, hbytes⟩ := read_of_partial hcount harrives hcut
            obtain rfl := Option.some.inj (hread.symm.trans hread')
            have hne : (result.bytes.length : Int) ≠ count := by omega
            rw [transportError, hvalue, if_neg hne]
            refine ⟨?_, hbytes⟩
            split_ifs <;> decide
        have hfit : ¬ msgBufSize < st.msg.bufIdx + result.bytes.length := by omega
        simp only [if_neg hfit]
        refine ⟨⟨hsent.1, hsent.2, rfl, rfl, rfl, rfl⟩, fun hnone => absurd hnone hfailed.1, ?_⟩
        rintro _ rfl
        have helements := elements_of_read hread
        rw [(read_of_silent harrives hread).1] at helements
        exact helements.symm

theorem wp_recv_received {H : Halt → Prop} (hrunning : H .running)
    (hcomplete : st.msg.complete = false) (hcount : 0 < count)
    (hroom : st.msg.bufIdx + count ≤ msgBufSize + 1)
    (hoverflow : msgBufSize < st.msg.bufIdx + count →
      st.conn.incoming.ArrivesWithin (st.conn.readLimit st.byteTimeoutMs) count → H .undefined) :
    Wp H (recv count) (fun err st' => Quiet st st' ∧ (err = .none →
      st.conn.incoming.ArrivesWithin (st.conn.readLimit st.byteTimeoutMs) count ∧
      st.msg.bufIdx + count ≤ msgBufSize ∧
      st' = (st.setConn (st.conn.advance st.byteTimeoutMs count)).setBuf
        (storeAt st.msg.buf st.msg.bufIdx (st.conn.incoming.elements.take count)))) st :=
  wp_mono (wp_recv_first hrunning hcomplete hcount hroom hoverflow) fun _ _ h => ⟨h.1, h.2.1⟩

theorem wp_recv_zero {H : Halt → Prop} (hrunning : H .running)
    (hcomplete : st.msg.complete = false) (hidx : st.msg.bufIdx ≤ msgBufSize) :
    Wp H (recv 0) (fun err st' => Quiet st st' ∧ (err = .none → False)) st := by
  apply wp_recv_read hcomplete (fun _ => hrunning)
  intro result hread
  have hsent := sent_of_read hread
  obtain ⟨hbytes, hvalue⟩ := read_nothing hread
  rw [hbytes, hvalue, transportError_neg]
  exact ⟨hidx, ⟨hsent.1, hsent.2, rfl, rfl, rfl, rfl⟩, NmbsError.noConfusion⟩

structure Received (st : Nmbs σ) (r : NmbsError × Bool) (st' : Nmbs σ) : Prop where
  quiet : Quiet st st'
  message : r.1 = .none → st.Arrives ∧ st'.msg = st.received.msg ∧
    st'.conn.incoming.elements = st.conn.incoming.elements.drop (8 + st.bodyLength)
  idle : r.2 = false → r.1 ≠ .none ∧
    st'.conn.incoming.elements = st.conn.incoming.elements

theorem Received.failed {st' : Nmbs σ} (hquiet : Quiet st st') {err : NmbsError}
    (herr : err ≠ .none) : Received st (err, true) st' :=
  ⟨hquiet, fun hnone => absurd hnone herr, fun hidle => Bool.noConfusion hidle⟩

theorem wp_recv_or {H : Halt → Prop} {P : Nmbs σ → Prop} {st₀ : Nmbs σ} (hquiet : Quiet st st₀)
    (h : Wp H (recv count) (fun err st' => Quiet st₀ st' ∧ (err = .none → P st')) st₀)
    {rest : NmbsM σ (NmbsError × Bool)}
    (hrest : ∀ st', Quiet st st' → P st' → Wp H rest (Received st) st') :
    Wp H (do
      let err ← recv count
      if err ≠ .none then return (err, true)
      rest) (Received st) st₀ := by
  rw [wp_bind]
  apply wp_mono h
  rintro err st' ⟨hquiet', hP⟩
  by_cases herr : err = .none
  · rw [if_neg (not_not.mpr herr)]
    exact hrest st' (hquiet.trans hquiet') (hP herr)
  · rw [if_pos herr]
    exact .failed (hquiet.trans hquiet') herr

theorem wp_checked_received {H : Halt → Prop} {st' : Nmbs σ} (hheader : st.HeaderArrives)
    (hlength : 2 ≤ st.lengthField ∧ st.lengthField ≤ 255) (hquiet : Quiet st st')
    (hbody : st.BodyArrives)
    (hmsg : st'.msg = st.messageAfter (8 + st.bodyLength) false)
    (helements : st'.conn.incoming.elements =
      st.conn.incoming.elements.drop (8 + st.bodyLength)) :
    Wp H (do
      if st.protocolId ≠ 0 then return (.invalidTcpMbap, true)
      Program.modify fun st => { st with msg := { st.msg with complete := true } }
      return (.none, true)) (Received st) st' := by
  by_cases hprotocol : st.protocolId = 0
  · rw [if_neg (not_not.mpr hprotocol), wp_bind, wp_modify, wp_pure, hmsg]
    exact ⟨⟨hquiet.1, hquiet.2, hquiet.3, hquiet.4, hquiet.5, hquiet.6⟩,
      fun _ => ⟨⟨hheader, hlength, hbody, hprotocol⟩, rfl, helements⟩,
      fun hidle => Bool.noConfusion hidle⟩
  · rw [if_pos hprotocol]
    exact .failed hquiet (by decide)

theorem elements_gotFields (st : Nmbs σ) :
    st.gotFields.conn.incoming.elements = st.conn.incoming.elements.drop 8 := by
  rw [gotFields_incoming, TimedStream.elements_drop]

theorem wp_recvBody_received (hheader : st.HeaderArrives) :
    Wp st.StaysDefined (recvBody st.lengthField st.protocolId) (Received st) st.gotFields := by
  have hquiet : Quiet st st.gotFields := ⟨rfl, rfl, rfl, rfl, rfl, rfl⟩
  have hlimit : st.gotFields.conn.readLimit st.gotFields.byteTimeoutMs = st.byteLimit :=
    gotFields_readLimit st
  rw [recvBody]
  by_cases hbad : st.lengthField < 2 ∨ 255 < st.lengthField
  · rw [if_pos hbad]
    exact .failed hquiet (by decide)
  have hlength : 2 ≤ st.lengthField ∧ st.lengthField ≤ 255 := by
    rwa [not_or, UInt16.not_lt, UInt16.not_lt] at hbad
  have hcount : st.lengthField.toNat - 2 = st.bodyLength := rfl
  have hroom : 8 + st.bodyLength ≤ msgBufSize + 1 := by
    have hsize : st.lengthField.toNat ≤ 255 := hlength.2
    unfold msgBufSize
    omega
  rw [if_neg hbad, hcount]
  obtain hempty | hpos := Nat.eq_zero_or_pos st.bodyLength
  · rw [hempty]
    apply wp_recv_or hquiet (@wp_recv_zero _ st.gotFields _ st.staysDefined_running rfl
      (Nat.le_of_ble_eq_true rfl))
    exact fun _ _ hnever => hnever.elim
  · have hoverflow : msgBufSize < 8 + st.bodyLength →
        st.gotFields.conn.incoming.ArrivesWithin
          (st.gotFields.conn.readLimit st.gotFields.byteTimeoutMs) st.bodyLength →
        st.StaysDefined .undefined := by
      intro hlarge harrives _
      rw [hlimit, gotFields_incoming] at harrives
      exact .inl ⟨hheader, hlength, hlarge, harrives⟩
    apply wp_recv_or hquiet (@wp_recv_received _ st.gotFields _ _ st.staysDefined_running rfl hpos
      hroom hoverflow)
    rintro st₁ hquiet₁ ⟨harrives, hfit, rfl⟩
    have hbuffer := bufferAfter_add st st.bodyLength hheader.eight_le
    rw [gotFields_incoming, hlimit] at harrives
    rw [← gotFields_incoming] at hbuffer
    apply wp_checked_received hheader hlength hquiet₁ ⟨hpos, hfit, harrives⟩
    · rw [messageAfter, ← hbuffer]
      rfl
    · have hdrop : (st.gotFields.conn.incoming.drop st.bodyLength).elements =
          st.conn.incoming.elements.drop (8 + st.bodyLength) := by
        rw [TimedStream.elements_drop, elements_gotFields, List.drop_drop]
      exact hdrop

/-- When `recv_msg_header` succeeds, a whole message is in the buffer. -/
theorem wp_recvMsgHeader_received (st : Nmbs σ) :
    Wp st.StaysDefined recvMsgHeader (Received st) st := by
  by_cases hfirst : st.conn.incoming.ArrivesWithin st.readLimit 1
  · have hquiet : Quiet st st.gotFirst := ⟨rfl, rfl, rfl, rfl, rfl, rfl⟩
    rw [wp_recvMsgHeader_of_first hfirst]
    by_cases hrest : (st.conn.incoming.drop 1).ArrivesWithin st.byteLimit 7
    · rw [wp_recvFields_of_header ⟨hfirst, hrest⟩]
      exact wp_recvBody_received ⟨hfirst, hrest⟩
    · apply wp_recv_or hquiet (@wp_recv_received _ st.gotFirst _ _ st.staysDefined_running rfl
        (by decide) (Nat.le_of_ble_eq_true rfl) fun _ harrives => absurd harrives hrest)
      exact fun _ _ h => absurd h.1 hrest
  · rw [recvMsgHeader, wp_withState]
    dsimp only
    rw [wp_bind, wp_modify, wp_bind, msgStateReset, wp_modify, wp_bind]
    apply wp_mono (wp_recv_first st.staysDefined_running rfl Nat.one_pos
      (Nat.le_of_ble_eq_true rfl) fun _ harrives => absurd harrives hfirst)
    rintro err st₁ ⟨hquiet, hreceived, hnothing⟩
    rw [wp_bind, wp_modify]
    have herr : err ≠ .none := fun hnone => hfirst (hreceived hnone).1
    rw [if_pos herr]
    have hquiet' : Quiet st (st₁.setByteTimeout st.byteTimeoutMs) :=
      ⟨hquiet.1, hquiet.2, hquiet.3, hquiet.4, rfl, hquiet.6⟩
    exact ⟨hquiet', fun hnone => absurd hnone herr, fun _ => ⟨herr, hnothing herr rfl⟩⟩

def Nmbs.gotMessage (st : Nmbs σ) : Nmbs σ :=
  { st with
    msg := st.received.msg
    conn := ((st.conn.advance st.readTimeoutMs 1).advance st.byteTimeoutMs 7).advance
      st.byteTimeoutMs st.bodyLength }

theorem gotMessage_incoming (st : Nmbs σ) :
    st.gotMessage.conn.incoming = st.conn.incoming.drop (8 + st.bodyLength) := by
  have hdrop : st.gotMessage.conn.incoming = st.gotFields.conn.incoming.drop st.bodyLength := rfl
  rw [hdrop, gotFields_incoming, TimedStream.drop_drop]

theorem Nmbs.Arrives.gotFields {st : Nmbs σ} (h : st.Arrives) :
    st.gotFields.conn.incoming.ArrivesWithin
      (st.gotFields.conn.readLimit st.gotFields.byteTimeoutMs) st.bodyLength := by
  have hlimit : st.gotFields.conn.readLimit st.gotFields.byteTimeoutMs = st.byteLimit :=
    gotFields_readLimit st
  rw [gotFields_incoming, hlimit]
  exact h.body.2.2

/-- A whole message is always taken. -/
theorem wp_recvMsgHeader_arrives {H : Halt → Prop} (h : st.Arrives)
    (Q : NmbsError × Bool → Nmbs σ → Prop) :
    Wp H recvMsgHeader Q st ↔ Q (.none, true) st.gotMessage := by
  have hlength : ¬ (st.lengthField < 2 ∨ 255 < st.lengthField) := by
    rw [not_or, UInt16.not_lt, UInt16.not_lt]
    exact h.length
  have hcount : st.lengthField.toNat - 2 = st.bodyLength := rfl
  have hbuffer : storeAt st.gotFields.msg.buf st.gotFields.msg.bufIdx
      (st.gotFields.conn.incoming.elements.take st.bodyLength) =
      st.bufferAfter (8 + st.bodyLength) := by
    rw [gotFields_incoming]
    exact bufferAfter_add st st.bodyLength h.header.eight_le
  rw [wp_recvMsgHeader_of_first h.header.1, wp_recvFields_of_header h.header, recvBody,
    if_neg hlength, hcount, wp_bind, wp_recv_arrives rfl h.body.1 h.body.2.1 h.gotFields,
    if_neg (by decide), if_neg (not_not.mpr h.protocolId_eq), wp_bind, wp_modify, hbuffer]
  rfl

end Receiving

/-! ## One poll -/

def Nmbs.answers (st : Nmbs σ) : List (List UInt8) :=
  if st.conn.Sends then (st.received.reply.1.answer st.received.msg).toList else []

structure MessageEffect (st : Nmbs σ) (err : NmbsError) (st' : Nmbs σ) : Prop where
  arrives : st.Arrives
  arg_eq : st'.arg = st.received.reply.2
  written_eq : st'.conn.written = st.answers ++ st.conn.written
  answered : err = .none → ∃ bytes, st.received.reply.1.answer st.received.msg = some bytes ∧
    st.answers = [bytes]
  unanswered : err ≠ .none → st.answers = []
  taken : ∃ dropped, st.conn.incoming.elements.drop (8 + st.bodyLength) =
    dropped ++ st'.conn.incoming.elements ∧
    (st.received.msg.fc.toNat ∈ supportedFcs → err = .none → dropped = [])
  callbacks_eq : st'.callbacks = st.callbacks
  byteTimeout_eq : st'.byteTimeoutMs = st.byteTimeoutMs
  readTimeout_eq : st'.readTimeoutMs = st.readTimeoutMs

/-- What a poll has done, as far as the peer and the application can tell. -/
inductive PollEffect (st : Nmbs σ) : NmbsError → Nmbs σ → Prop
  | idle {st' : Nmbs σ} (h : Quiet st st') (hmissing : ¬ st.Arrives)
      (hnothing : st'.conn.incoming.elements = st.conn.incoming.elements) : PollEffect st .none st'
  | failed {err : NmbsError} {st' : Nmbs σ} (h : Quiet st st') (hmissing : ¬ st.Arrives)
      (herr : err ≠ .none) : PollEffect st err st'
  | message {err : NmbsError} {st' : Nmbs σ} (h : MessageEffect st err st') : PollEffect st err st'

section Poll

variable {st : Nmbs σ}

theorem subrequestsAt_congr {st' : Nmbs σ} (h : st.msg = st'.msg) (n count : Nat) :
    st.subrequestsAt n count = st'.subrequestsAt n count := by
  induction count generalizing n with
  | zero => rfl
  | succ count ih => simp only [subrequestsAt, subrequestAt, wordAt, h, ih]

theorem scanSubrequests_congr {st' : Nmbs σ} (h : st.msg = st'.msg) (rounds n : Nat)
    (size : UInt16) : st.scanSubrequests rounds n size = st'.scanSubrequests rounds n size := by
  induction rounds generalizing n size with
  | zero => rfl
  | succ rounds ih =>
      have hsubreq : st.subrequestAt n = st'.subrequestAt n := by
        simp only [subrequestAt, wordAt, h]
      simp only [scanSubrequests, hsubreq, ih]

theorem reply_congr {st' : Nmbs σ} (hmsg : st.msg = st'.msg)
    (hcallbacks : st.callbacks = st'.callbacks) (harg : st.arg = st'.arg) :
    st.reply = st'.reply := by
  have hread : st.readFileRecordReply = st'.readFileRecordReply := by
    simp only [readFileRecordReply, subrequestsAt_congr hmsg, hmsg, harg]
  have hwrite : st.writeFileRecordReply = st'.writeFileRecordReply := by
    simp only [writeFileRecordReply, scanSubrequests_congr hmsg, hmsg, harg]
  simp only [reply, replyFor, hread, hwrite, hmsg]
  cases st
  cases st'
  simp only at hmsg hcallbacks harg
  subst hmsg hcallbacks harg
  rfl

theorem wp_afterHandler_quiet {H : Halt → Prop} (hrunning : H .running) (err : NmbsError) :
    Wp H (do
      if err ≠ .none then
        if err ≠ .timeout then flush
        return err
      return .none) (fun err' st' => err' = err ∧ Quiet st st' ∧
        ∃ dropped, st.conn.incoming.elements = dropped ++ st'.conn.incoming.elements ∧
          (err = .none → dropped = [])) st := by
  have hself : Quiet st st := ⟨rfl, rfl, rfl, rfl, rfl, rfl⟩
  by_cases herr : err = .none
  · rw [if_neg (not_not.mpr herr), herr]
    exact ⟨rfl, hself, [], rfl, fun _ => rfl⟩
  · rw [if_pos herr]
    by_cases htimeout : err = .timeout
    · rw [if_neg (not_not.mpr htimeout)]
      exact ⟨rfl, hself, [], rfl, fun _ => rfl⟩
    · rw [if_pos htimeout, wp_bind]
      apply wp_flush_at (fun _ => hrunning)
      intro result hread buf
      have hsent := sent_of_read hread
      exact ⟨rfl, ⟨hsent.1, hsent.2, rfl, rfl, rfl, rfl⟩, result.bytes, elements_of_read hread,
        fun hnone => absurd hnone herr⟩

theorem Nmbs.AnswersOn.taken {conn : Conn} (h : st.AnswersOn conn) :
    ∃ dropped, st.conn.incoming.elements = dropped ++ conn.incoming.elements ∧
      (st.msg.fc.toNat ∈ supportedFcs → dropped = []) := by
  unfold AnswersOn at h
  split_ifs at h with hsupported
  · exact ⟨[], by rw [h, List.nil_append], fun _ => rfl⟩
  · obtain ⟨result, hread, rfl⟩ := h
    exact ⟨result.bytes, elements_of_read hread, fun hin => absurd hin hsupported⟩

theorem Answered.effect {outcome : Reply × σ} {err : NmbsError} {st' : Nmbs σ}
    (h : Answered st outcome err st') :
    st'.arg = outcome.2 ∧ st'.conn.written = (if st.conn.Sends then
        (outcome.1.answer st.msg).toList else []) ++ st.conn.written ∧
      (err = .none → ∃ bytes, outcome.1.answer st.msg = some bytes ∧ st.conn.Sends) ∧
      (err ≠ .none → st.conn.Sends → outcome.1.answer st.msg = none) ∧
      st'.conn.incoming.elements = st.conn.incoming.elements ∧ st'.callbacks = st.callbacks ∧
      st'.byteTimeoutMs = st.byteTimeoutMs ∧ st'.readTimeoutMs = st.readTimeoutMs := by
  rw [Answered] at h
  cases hanswer : outcome.1.answer st.msg with
  | none =>
      rw [hanswer] at h
      obtain ⟨herr, hframed⟩ := h
      refine ⟨hframed.arg_eq, ?_, fun hnone => ?_, fun _ _ => rfl,
        congrArg (·.incoming.elements) hframed.conn_eq, hframed.callbacks_eq,
        hframed.byteTimeout_eq,
        hframed.readTimeout_eq⟩
      · rw [hframed.conn_eq, Option.toList_none, ite_self]
        rfl
      · rw [herr] at hnone
        exact NmbsError.noConfusion hnone
  | some bytes =>
      rw [hanswer] at h
      obtain ⟨o, houtcome, hconn⟩ := h.conn_eq
      refine ⟨h.arg_eq, ?_, fun hnone => ⟨bytes, rfl, ?_⟩, fun herr hsent => ?_, ?_,
        h.callbacks_eq, h.byteTimeout_eq, h.readTimeout_eq⟩
      · rw [hconn, written_sent houtcome]
        rfl
      · by_contra hunsent
        have herr : err = .transport := h.err_eq.trans (if_neg hunsent)
        exact NmbsError.noConfusion (herr.symm.trans hnone)
      · exact absurd (h.err_eq.trans (if_pos hsent)) herr
      · rw [hconn]
        exact TimedStream.elements_elapse _ _

theorem MessageEffect.of_answered {st₁ st₂ st' : Nmbs σ} {conn : Conn} {err : NmbsError}
    {first : Bool} (hreceived : Received st (.none, first) st₁) (hanswers : st₁.AnswersOn conn)
    (hanswered : Answered (st₁.setConn conn) st₁.reply err st₂) (hquiet' : Quiet st₂ st')
    (hdropped : ∃ dropped, st₂.conn.incoming.elements = dropped ++ st'.conn.incoming.elements ∧
      (err = .none → dropped = [])) : MessageEffect st err st' := by
  obtain ⟨harrives, hmsg, helements⟩ := hreceived.message rfl
  have hquiet := hreceived.quiet
  have hreply : st₁.reply = st.received.reply :=
    reply_congr hmsg hquiet.callbacks_eq hquiet.arg_eq
  have hwritten : conn.written = st.conn.written := hanswers.sent_eq.1.trans hquiet.written_eq
  have hsends : conn.sends = st.conn.sends := hanswers.sent_eq.2.trans hquiet.sends_eq
  obtain ⟨harg₂, hwritten₂, hanswered₂, hunanswered₂, hincoming₂, hcallbacks₂, hbyteTimeout₂,
    hreadTimeout₂⟩ := hanswered.effect
  have hmsg' : (st₁.setConn conn).msg = st.received.msg := hmsg
  have hsends' : (st₁.setConn conn).conn.Sends ↔ st.conn.Sends := Conn.sends_congr hsends
  have hwritten' : (st₁.setConn conn).conn.written = st.conn.written := hwritten
  rw [hreply] at harg₂ hwritten₂ hanswered₂ hunanswered₂
  simp only [hmsg', hsends', hwritten'] at hwritten₂ hanswered₂ hunanswered₂
  obtain ⟨dropped₁, hdropped₁, hnone₁⟩ := hanswers.taken
  obtain ⟨dropped₂, hdropped₂, hnone₂⟩ := hdropped
  refine ⟨harrives, hquiet'.arg_eq.trans harg₂, hquiet'.written_eq.trans hwritten₂,
    fun hnone => ?_, fun herr => ?_, ⟨dropped₁ ++ dropped₂, ?_, fun hsupported hnone => ?_⟩,
    hquiet'.callbacks_eq.trans (hcallbacks₂.trans hquiet.callbacks_eq),
    hquiet'.byteTimeout_eq.trans (hbyteTimeout₂.trans hquiet.byteTimeout_eq),
    hquiet'.readTimeout_eq.trans (hreadTimeout₂.trans hquiet.readTimeout_eq)⟩
  · obtain ⟨bytes, hbytes, hsent⟩ := hanswered₂ hnone
    exact ⟨bytes, hbytes, by rw [answers, if_pos hsent, hbytes, Option.toList_some]⟩
  · rw [answers]
    split_ifs with hsent
    · rw [hunanswered₂ herr hsent, Option.toList_none]
    · rfl
  · rw [← helements, hdropped₁, List.append_assoc, ← hdropped₂, hincoming₂]
    rfl
  · rw [hmsg] at hnone₁
    rw [hnone₁ hsupported, hnone₂ hnone, List.nil_append]

/-- Every poll that returns has done nothing, or has handled one whole message. -/
theorem wp_nmbsServerPoll_effect (st : Nmbs σ) :
    Wp st.StaysDefined nmbsServerPoll (PollEffect st) st := by
  rw [nmbsServerPoll, wp_bind, msgStateReset, wp_modify, wp_bind]
  have hresume : ∀ halted, st.reset.StaysDefined halted → st.StaysDefined halted := by
    intro halted hdefined hundefined
    obtain hoverflow | ⟨harrives, hoverrun⟩ := hdefined hundefined
    · exact .inl hoverflow
    · exact .inr ⟨⟨harrives.1, harrives.2, harrives.3, harrives.4⟩, hoverrun⟩
  apply wp_mono (wp_run (wp_weaken (wp_recvMsgHeader_received st.reset) hresume))
  rintro ⟨err, first⟩ st₁ ⟨hrun, hreset⟩
  have hquiet := hreset.quiet
  have hreceived : Received st (err, first) st₁ :=
    ⟨⟨hquiet.1, hquiet.2, hquiet.3, hquiet.4, hquiet.5, hquiet.6⟩, fun hnone =>
      have harrives := (hreset.message hnone).1
      ⟨⟨harrives.1, harrives.2, harrives.3, harrives.4⟩, (hreset.message hnone).2⟩,
      hreset.idle⟩
  dsimp only
  by_cases herr : err = .none
  · subst herr
    obtain ⟨harrives, hmsg, _⟩ := hreceived.message rfl
    rw [if_neg (by decide), wp_bind]
    have hready : st₁.Ready := by
      constructor <;> rw [hmsg] <;> rfl
    have hscan : ¬ st₁.Malformed → ¬ st₁.ScanFits → st.StaysDefined .undefined := by
      intro hwell hunfit _
      rw [malformed_congr hmsg] at hwell
      rw [scanFits_congr hmsg] at hunfit
      exact .inr ⟨harrives, hwell, hunfit⟩
    apply wp_mono (wp_handleReqFc_answered hready hscan (fun _ _ => st.staysDefined_running)
      fun _ => st.staysDefined_running)
    rintro err₂ st₂ ⟨conn, hanswers, hanswered⟩
    apply wp_mono (wp_afterHandler_quiet st.staysDefined_running err₂)
    rintro _ st₃ ⟨rfl, hquiet', hdropped⟩
    exact .message (.of_answered hreceived hanswers hanswered hquiet' hdropped)
  · have hmissing : ¬ st.Arrives := by
      intro harrives
      have harrives' : st.reset.Arrives := ⟨harrives.1, harrives.2, harrives.3, harrives.4⟩
      have htaken : Wp (fun _ => True) recvMsgHeader (fun r _ => r.1 = .none) st.reset :=
        (wp_recvMsgHeader_arrives harrives' _).mpr rfl
      have hnone := wp_ok htaken hrun
      exact herr hnone
    rw [if_pos herr]
    by_cases hidle : !first ∧ err = .timeout
    · rw [if_pos hidle]
      exact .idle hreceived.quiet hmissing (hreceived.idle (by simpa using hidle.1)).2
    · rw [if_neg hidle]
      exact .failed hreceived.quiet hmissing herr

end Poll

end DriveSim
