import DriveSim.Nmbs.Exchange

/-!
# A prompt peer

A peer that has begun a message sends the rest of it in time.  A poll that finds such a
message takes exactly this message, and one that finds none loses nothing by waiting.
-/

namespace DriveSim

open Lib Program Nmbs

variable {σ : Type*}

structure Message where
  transactionId : UInt16
  unitId : UInt8
  fc : UInt8
  body : List UInt8
  body_pos : 0 < body.length
  body_le : body.length ≤ 252

def Message.bytes (m : Message) : List UInt8 := frame m.transactionId m.unitId m.fc m.body

/-- The message arrives after these delays: the first byte at any time, the rest of the
header within the limit, and then the body within the limit. -/
structure Message.SentIn (m : Message) (limit : Option Nat) (arrivals : List (Nat × UInt8)) :
    Prop where
  bytes_eq : arrivals.map Prod.snd = m.bytes
  header : Within limit (((arrivals.drop 1).take 7).map Prod.fst).sum
  body : Within limit ((arrivals.drop 8).map Prod.fst).sum

inductive Prompt (limit : Option Nat) : List (Nat × UInt8) → List Message → Prop
  | nil : Prompt limit [] []
  | cons {m : Message} {arrivals rest : List (Nat × UInt8)} {ms : List Message}
      (h : m.SentIn limit arrivals) (hrest : Prompt limit rest ms) :
      Prompt limit (arrivals ++ rest) (m :: ms)

theorem Prompt.of_nil {limit : Option Nat} {all : List (Nat × UInt8)} (h : Prompt limit all []) :
    all = [] := by
  cases h with
  | nil => rfl

theorem Prompt.of_cons {limit : Option Nat} {all : List (Nat × UInt8)} {m : Message}
    {ms : List Message} (h : Prompt limit all (m :: ms)) :
    ∃ arrivals rest, all = arrivals ++ rest ∧ m.SentIn limit arrivals ∧ Prompt limit rest ms := by
  cases h with
  | cons h hrest => exact ⟨_, _, rfl, h, hrest⟩

theorem Conn.readLimit_of_nonneg (conn : Conn) {timeoutMs : Int} (h : 0 ≤ timeoutMs) :
    conn.readLimit timeoutMs = Conn.limitOf timeoutMs.toNat := by
  rw [Conn.readLimit, rcvTimeoFor, if_pos h]

/-! ## The bytes of a message in the buffer -/

section Bytes

variable {st : Nmbs σ} {m : Message} {rest : List UInt8}

theorem Message.length_bytes (m : Message) : m.bytes.length = 8 + m.body.length :=
  length_frame ..

theorem bufferAfter_of_lt {count i : Nat} (hi : i < count)
    (hcount : count ≤ st.conn.incoming.elements.length) :
    st.bufferAfter count i = st.conn.incoming.elements.getD i 0 := by
  have hlength : (st.conn.incoming.elements.take count).length = count := by
    rw [List.length_take, Nat.min_eq_left hcount]
  have hstored : 0 ≤ i ∧ i < 0 + count := by omega
  rw [bufferAfter, storeAt, hlength, if_pos hstored, Nat.sub_zero]
  simp only [List.getD_eq_getElem?_getD, List.getElem?_take_of_lt hi]

variable (h : st.conn.incoming.elements = m.bytes ++ rest)
include h

theorem Message.eight_le : 8 ≤ st.conn.incoming.elements.length := by
  rw [h, List.length_append, m.length_bytes]
  omega

theorem Message.bufferAfter_header {i : Nat} (hi : i < 8) :
    st.bufferAfter 8 i = (mbapHeader m.transactionId m.unitId m.fc
      (UInt16.ofNat m.body.length)).getD i 0 := by
  rw [bufferAfter_of_lt hi (Message.eight_le h), h, bytes, frame, List.append_assoc,
    List.getD_append _ _ _ _ hi]

theorem Message.protocolId_eq : st.protocolId = 0 := by
  rw [protocolId, Message.bufferAfter_header h (by decide),
    Message.bufferAfter_header h (by decide)]
  exact word_wordBytes 0

theorem Message.lengthField_eq : st.lengthField = 1 + 1 + UInt16.ofNat m.body.length := by
  rw [lengthField, Message.bufferAfter_header h (by decide),
    Message.bufferAfter_header h (by decide)]
  exact word_wordBytes _

theorem Message.lengthField_toNat : st.lengthField.toNat = 2 + m.body.length := by
  have hle := m.body_le
  rw [Message.lengthField_eq h, UInt16.toNat_add, UInt16.toNat_add, UInt16.toNat_ofNat',
    UInt16.toNat_one]
  omega

theorem Message.bodyLength_eq : st.bodyLength = m.body.length := by
  rw [bodyLength, Message.lengthField_toNat h]
  omega

theorem Message.received_eq :
    st.received.msg.transactionId = m.transactionId ∧ st.received.msg.unitId = m.unitId ∧
      st.received.msg.fc = m.fc ∧
      ∀ i < 8 + m.body.length, st.received.msg.buf i = m.bytes.getD i 0 := by
  have hmsg : st.received.msg = st.messageAfter (8 + st.bodyLength) true := rfl
  rw [hmsg]
  refine ⟨?_, Message.bufferAfter_header h (by decide), Message.bufferAfter_header h (by decide),
    fun i hi => ?_⟩
  · simp only [messageAfter]
    rw [Message.bufferAfter_header h (by decide), Message.bufferAfter_header h (by decide)]
    exact word_wordBytes _
  · have hlength : 8 + m.body.length ≤ st.conn.incoming.elements.length := by
      rw [h, List.length_append, m.length_bytes]
      omega
    dsimp only [messageAfter]
    rw [Message.bodyLength_eq h, bufferAfter_of_lt hi hlength, h,
      List.getD_append _ _ _ _ (by rwa [m.length_bytes])]

end Bytes

/-! ## A poll that finds a message -/

theorem Message.SentIn.ne_nil {m : Message} {limit : Option Nat} {arrivals : List (Nat × UInt8)}
    (h : m.SentIn limit arrivals) : arrivals ≠ [] := by
  rintro rfl
  have hlength := congrArg List.length h.bytes_eq
  rw [m.length_bytes, List.map_nil, List.length_nil] at hlength
  omega

def sentAfter (pause : Nat) : List UInt8 → List (Nat × UInt8)
  | [] => []
  | b :: bytes => (pause, b) :: bytes.map (0, ·)

theorem time_of_map_zero (bytes : List UInt8) : ((bytes.map (0, ·)).map Prod.fst).sum = 0 := by
  induction bytes with
  | nil => rfl
  | cons b bytes ih =>
      rw [List.map_cons, List.map_cons, List.sum_cons, ih]

theorem Message.sentIn_sentAfter (m : Message) (limit : Option Nat) (pause : Nat) :
    m.SentIn limit (sentAfter pause m.bytes) := by
  have hnow : ∀ bytes, Within limit
      ((List.map (0, ·) bytes : List (Nat × UInt8)).map Prod.fst).sum :=
    fun bytes b _ => (time_of_map_zero bytes).trans_le (Nat.zero_le b)
  cases hbytes : m.bytes with
  | nil =>
      have hlength := m.length_bytes
      rw [hbytes, List.length_nil] at hlength
      omega
  | cons b bytes =>
      refine ⟨?_, ?_, ?_⟩
      · rw [sentAfter, List.map_cons, List.map_map, hbytes]
        exact congrArg (b :: ·) (List.map_id bytes)
      · rw [sentAfter, List.drop_one, List.tail_cons, ← List.map_take]
        exact hnow _
      · rw [sentAfter, List.drop_succ_cons, ← List.map_drop]
        exact hnow _

theorem Prompt.elapse {limit : Option Nat} {gap : Nat} {x : UInt8}
    {arrivals : List (Nat × UInt8)} {ms : List Message} (h : Prompt limit ((gap, x) :: arrivals) ms)
    (gap' : Nat) : Prompt limit ((gap', x) :: arrivals) ms := by
  cases ms with
  | nil => exact absurd h.of_nil (List.cons_ne_nil _ _)
  | cons m ms =>
      obtain ⟨piece, rest, hall, hsent, hrest⟩ := h.of_cons
      cases piece with
      | nil => exact absurd rfl hsent.ne_nil
      | cons a piece =>
          rw [List.cons_append, List.cons.injEq] at hall
          obtain ⟨rfl, rfl⟩ := hall
          have hlater : m.SentIn limit ((gap', x) :: piece) :=
            ⟨hsent.bytes_eq, hsent.header, hsent.body⟩
          exact .cons hlater hrest

theorem Message.SentIn.sooner {m : Message} {limit : Option Nat}
    {arrivals arrivals' : List (Nat × UInt8)} (h : m.SentIn limit arrivals)
    (hsooner : TimedStream.Sooner arrivals' arrivals) : m.SentIn limit arrivals' where
  bytes_eq := hsooner.map_snd_eq.trans h.bytes_eq
  header := h.header.mono <| TimedStream.Sooner.sum_le <|
    List.forall₂_take 7 (List.forall₂_drop 1 hsooner)
  body := h.body.mono (TimedStream.Sooner.sum_le (List.forall₂_drop 8 hsooner))

theorem Prompt.sooner {limit : Option Nat} {all all' : List (Nat × UInt8)} {ms : List Message}
    (h : Prompt limit all ms) (hsooner : TimedStream.Sooner all' all) : Prompt limit all' ms := by
  induction h generalizing all' with
  | nil =>
      cases hsooner with
      | nil => exact .nil
  | @cons m arrivals rest ms h _ ih =>
      rw [← List.take_append_drop arrivals.length all']
      exact .cons (h.sooner (List.forall₂_take_append _ _ _ hsooner))
        (ih (List.forall₂_drop_append _ _ _ hsooner))

/-- A message whose first byte comes now has arrived. -/
theorem Message.SentIn.arrives {st : Nmbs σ} {m : Message} {arrivals rest : List (Nat × UInt8)}
    (h : m.SentIn st.byteLimit arrivals) (hincoming : st.conn.incoming.arrivals = arrivals ++ rest)
    (hfirst : st.conn.incoming.ArrivesWithin st.readLimit 1) :
    st.Arrives ∧ st.bodyLength = m.body.length := by
  have hlength : arrivals.length = 8 + m.body.length := by
    rw [← m.length_bytes, ← h.bytes_eq, List.length_map]
  have helements : st.conn.incoming.elements = m.bytes ++ rest.map Prod.snd := by
    rw [TimedStream.elements, hincoming, List.map_append, h.bytes_eq]
  have htotal : st.conn.incoming.arrivals.length = 8 + m.body.length + rest.length := by
    rw [hincoming, List.length_append, hlength]
  have hbody := Message.bodyLength_eq helements
  have hle := m.body_le
  have hheader : (st.conn.incoming.arrivals.drop 1).take 7 = (arrivals.drop 1).take 7 := by
    rw [hincoming, List.drop_append_of_le_length (by omega),
      List.take_append_of_le_length (by rw [List.length_drop]; omega)]
  have hrest : (st.conn.incoming.arrivals.drop 8).take st.bodyLength = arrivals.drop 8 := by
    have hdrop : (arrivals.drop 8).length = m.body.length := by
      rw [List.length_drop]
      omega
    rw [hincoming, List.drop_append_of_le_length (by omega), hbody,
      List.take_append_of_le_length hdrop.ge, List.take_of_length_le hdrop.le]
  have hbodyArrives : (st.conn.incoming.drop 8).ArrivesWithin st.byteLimit st.bodyLength := by
    constructor
    · rw [TimedStream.drop, List.length_drop]
      omega
    · rw [TimedStream.time, TimedStream.drop, hrest]
      exact h.body
  refine ⟨⟨⟨hfirst, ?_, ?_⟩, ⟨?_, ?_⟩, ⟨hbody ▸ m.body_pos, ?_, hbodyArrives⟩,
    Message.protocolId_eq helements⟩, hbody⟩
  · rw [TimedStream.drop, List.length_drop]
    omega
  · rw [TimedStream.time, TimedStream.drop, hheader]
    exact h.header
  · rw [UInt16.le_iff_toNat_le, Message.lengthField_toNat helements]
    exact Nat.le_add_right 2 _
  · rw [UInt16.le_iff_toNat_le, Message.lengthField_toNat helements]
    show 2 + m.body.length ≤ 255
    omega
  · unfold msgBufSize
    omega

section Arrived

theorem Nmbs.Arrives.progress {st : Nmbs σ} (h : st.Arrives) :
    st.conn.Progress st.gotMessage.conn :=
  h.header.progress.later ((Conn.Later.refl _).advance h.body.1 h.gotFields)

theorem Answered.sent {st st' : Nmbs σ} {outcome : Reply × σ} {err : NmbsError}
    (h : Answered st outcome err st') {bytes : List UInt8}
    (hanswer : outcome.1.answer st.msg = some bytes) :
    Sent (st.setArg outcome.2) bytes err st' := by
  rw [Answered, hanswer] at h
  exact h

variable {H : Halt → Prop} {st : Nmbs σ}

/-- A message that has arrived is handled and answered, and nothing else happens. -/
theorem wp_nmbsServerPoll_arrives (h : st.Arrives)
    (hsupported : st.received.msg.fc.toNat ∈ supportedFcs) (hscan : st.received.ScanFits)
    {bytes : List UInt8} (hanswer : st.received.reply.1.answer st.received.msg = some bytes)
    (hsend : st.conn.Sends) :
    Wp (fun _ => False) nmbsServerPoll (fun err st' => err = .none ∧
      Sent (st.gotMessage.setArg st.received.reply.2) bytes .none st') st := by
  have harrives : st.reset.Arrives := ⟨⟨h.1.1, h.1.2⟩, h.2, h.3, h.4⟩
  have hready : st.gotMessage.Ready := ⟨rfl, rfl⟩
  have hmsg : st.gotMessage.msg = st.received.msg := rfl
  have hreply : st.gotMessage.reply = st.received.reply := reply_congr hmsg rfl rfl
  have hsend' : st.gotMessage.conn.Sends := hsend
  rw [nmbsServerPoll, wp_bind, msgStateReset, wp_modify, wp_bind]
  apply (wp_recvMsgHeader_arrives harrives _).mpr
  dsimp only
  rw [if_neg (by decide), wp_bind]
  show Wp _ handleReqFc _ st.gotMessage
  apply wp_mono (wp_handleReqFc_answered hready
    (fun _ hunfit => hunfit ((scanFits_congr hmsg).mpr hscan))
    (fun hunsupported _ => hunsupported hsupported) hsend'.not_sendBlocks)
  rintro err st' ⟨conn, hconn, hanswered⟩
  rw [AnswersOn, hmsg, if_pos hsupported] at hconn
  rw [hreply, hconn] at hanswered
  have hsent : Sent (st.gotMessage.setArg st.received.reply.2) bytes err st' :=
    hanswered.sent hanswer
  obtain rfl : err = .none := hsent.err_eq.trans (if_pos hsend)
  rw [if_neg (by decide)]
  exact ⟨rfl, hsent⟩

end Arrived

/-! ## A poll that finds none -/

theorem read_of_late {conn : Conn} {byteTimeoutMs : Int} {gap : Nat} {x : UInt8}
    {arrivals : List (Nat × UInt8)} {ending : Ending}
    (hincoming : conn.incoming = ⟨(gap, x) :: arrivals, ending⟩)
    (hlate : ¬ Within (conn.readLimit byteTimeoutMs) gap) :
    ∃ b, b < gap ∧ 0 < b ∧ modbusTransportRead conn 1 byteTimeoutMs =
      some ⟨0, [], (conn.withTimeout byteTimeoutMs).after
        ⟨[], b, .timedOut, ⟨(gap - b, x) :: arrivals, ending⟩⟩⟩ := by
  have hlimit : (conn.withTimeout byteTimeoutMs).limit = conn.readLimit byteTimeoutMs := rfl
  have hsame : (conn.withTimeout byteTimeoutMs).incoming = conn.incoming := rfl
  cases hb : conn.readLimit byteTimeoutMs with
  | none =>
      rw [hb] at hlate
      exact absurd (within_none gap) hlate
  | some b =>
      have hlt : b < gap := by rwa [hb, within_some, not_le] at hlate
      refine ⟨b, hlt, pos_of_limit hb, ?_⟩
      rw [modbusTransportRead_eq, Conn.reception, if_neg Nat.one_ne_zero, hlimit, hsame,
        hincoming, TimedStream.receive, if_neg hlate, hb, TimedStream.expire,
        TimedStream.elapse_cons hlt.le]
      rfl

section Waiting

variable {st : Nmbs σ}

theorem wp_nmbsServerPoll_late {H : Halt → Prop} {gap : Nat} {x : UInt8}
    {arrivals : List (Nat × UInt8)} {ending : Ending}
    (hincoming : st.conn.incoming = ⟨(gap, x) :: arrivals, ending⟩)
    (hlate : ¬ Within st.readLimit gap) :
    Wp H nmbsServerPoll (fun err st' => err = .none ∧ Quiet st st' ∧
      ∃ b, b < gap ∧ 0 < b ∧ st'.conn.incoming = ⟨(gap - b, x) :: arrivals, ending⟩) st := by
  obtain ⟨b, hlt, hpos, hread⟩ := read_of_late hincoming hlate
  have hrecv : recv 1 (st.reset.setByteTimeout st.readTimeoutMs) = .ok (.timeout,
      ((st.reset.setByteTimeout st.readTimeoutMs).setConn
        ((st.conn.withTimeout st.readTimeoutMs).after
          ⟨[], b, .timedOut, ⟨(gap - b, x) :: arrivals, ending⟩⟩)).setBuf
        (storeAt st.msg.buf 0 [])) := by
    have hread' : modbusTransportRead (st.reset.setByteTimeout st.readTimeoutMs).conn 1
        (st.reset.setByteTimeout st.readTimeoutMs).byteTimeoutMs = _ := hread
    have hincomplete : ¬ (st.reset.setByteTimeout st.readTimeoutMs).msg.complete = true :=
      Bool.false_ne_true
    rw [recv, if_neg hincomplete, hread']
    rfl
  rw [nmbsServerPoll, wp_bind, msgStateReset, wp_modify, wp_bind, recvMsgHeader, wp_withState]
  dsimp only
  rw [wp_bind, wp_modify, wp_bind, msgStateReset, wp_modify, wp_bind]
  apply (wp_of_eq hrecv _).mpr
  rw [wp_bind, wp_modify, if_pos (by decide), wp_pure]
  exact ⟨rfl, ⟨rfl, rfl, rfl, rfl, rfl, rfl⟩, b, hlt, hpos, rfl⟩

theorem wp_nmbsServerPoll_over (harrivals : st.conn.incoming.arrivals = [])
    (hgo : st.conn.LetsGo) :
    Wp (fun _ => False) nmbsServerPoll (fun err st' => Quiet st st' ∧
      (err = .transport ∨ err = .none ∧ st'.conn.incoming.arrivals = [] ∧
        st.conn.Progress st'.conn)) st := by
  have hsilent : ¬ st.conn.incoming.ArrivesWithin st.readLimit 1 := by
    intro hfirst
    have hlength := hfirst.1
    rw [harrivals, List.length_nil] at hlength
    omega
  have htolerable : st.Tolerable := .inl hsilent
  have hstops : ∀ halted, Stops st halted → False := by
    rintro halted (⟨_, hopen⟩ | ⟨hintolerable, _⟩)
    · exact hopen hgo
    · exact hintolerable htolerable
  apply wp_mono (wp_run (wp_weaken (wp_nmbsServerPoll st) hstops))
  rintro err st' ⟨hpoll, houtcome⟩
  have hleft : (err = .none ∧ st.conn.Progress st'.conn) ∨ err = .transport := by
    obtain ⟨_, hleft⟩ | ⟨hintolerable, _⟩ := houtcome
    · exact hleft
    · exact absurd htolerable hintolerable
  have heffect := wp_ok (wp_nmbsServerPoll_effect st) hpoll
  cases heffect with
  | idle hquiet _ hnothing =>
      have hnone : st'.conn.incoming.arrivals = [] := by
        rw [← List.map_eq_nil_iff (f := Prod.snd)]
        rw [TimedStream.elements, TimedStream.elements, harrivals] at hnothing
        exact hnothing
      exact ⟨hquiet, hleft.symm.imp_right fun h => ⟨rfl, hnone, h.2⟩⟩
  | failed hquiet _ herr => exact ⟨hquiet, .inl (hleft.resolve_left fun h => herr h.1)⟩
  | message hmessage => exact absurd hmessage.arrives.header.1 hsilent

end Waiting

end DriveSim
