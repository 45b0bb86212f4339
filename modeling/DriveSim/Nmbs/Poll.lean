import DriveSim.Nmbs.Dispatch
import DriveSim.Transport.Outcome
import Mathlib.Data.List.GetD

/-!
# One poll

`nmbs_server_poll` returns `NONE` or `TRANSPORT` for an idle peer, for a whole message
that is handled, for a message without a body, and for a peer that hangs up between two
messages, or exactly where the header or the body of a message should start.  It never
returns for a message it refuses when the peer then stays and falls silent.  `Tolerable`
says all this in terms of the bytes to come.
-/

namespace DriveSim

open Lib Program Nmbs

variable {σ : Type*}

namespace Nmbs

variable (st : Nmbs σ)

def setMsg (msg : NmbsMsg) : Nmbs σ := { st with msg := msg }

def reset : Nmbs σ := st.setMsg ⟨st.msg.buf, 0, 0, 0, 0, false⟩

def readLimit : Option Nat := st.conn.readLimit st.readTimeoutMs

def byteLimit : Option Nat := (st.conn.advance st.readTimeoutMs 1).readLimit st.byteTimeoutMs

def bufferAfter (count : Nat) : Cells UInt8 :=
  storeAt st.msg.buf 0 (st.conn.incoming.elements.take count)

def gotFirst : Nmbs σ :=
  { st with msg := ⟨st.bufferAfter 1, 1, 0, 0, 0, false⟩,
            conn := st.conn.advance st.readTimeoutMs 1 }

def gotHeader : Nmbs σ :=
  { st with msg := ⟨st.bufferAfter 8, 1, 0, 0, 0, false⟩,
            conn := (st.conn.advance st.readTimeoutMs 1).advance st.byteTimeoutMs 7 }

def messageAfter (count : Nat) (complete : Bool) : NmbsMsg where
  buf := st.bufferAfter count
  bufIdx := 8
  unitId := st.bufferAfter 8 6
  fc := st.bufferAfter 8 7
  transactionId := word (st.bufferAfter 8 0) (st.bufferAfter 8 1)
  complete := complete

def gotFields : Nmbs σ :=
  { st with msg := st.messageAfter 8 false,
            conn := (st.conn.advance st.readTimeoutMs 1).advance st.byteTimeoutMs 7 }

def protocolId : UInt16 := word (st.bufferAfter 8 2) (st.bufferAfter 8 3)

def lengthField : UInt16 := word (st.bufferAfter 8 4) (st.bufferAfter 8 5)

def bodyLength : Nat := st.lengthField.toNat - 2

/-- The eight bytes of the header come in time. -/
def HeaderArrives : Prop :=
  st.conn.incoming.ArrivesWithin st.readLimit 1 ∧
    (st.conn.incoming.drop 1).ArrivesWithin st.byteLimit 7

/-- There is nothing to read behind the header, or the peer hangs up instead of sending it.
A read of no bytes looks like a closed connection. -/
def BodyCutOff : Prop :=
  st.bodyLength = 0 ∨ CutOff (st.conn.incoming.drop 8) st.byteLimit st.bodyLength

/-- The message has a body, which comes in time and fits the buffer. -/
def BodyArrives : Prop :=
  0 < st.bodyLength ∧ 8 + st.bodyLength ≤ msgBufSize ∧
    (st.conn.incoming.drop 8).ArrivesWithin st.byteLimit st.bodyLength

/-- The message is well formed, as far as the library cares. -/
def WellFormed : Prop :=
  st.protocolId = 0 ∧ ¬ (st.setMsg (st.messageAfter (8 + st.bodyLength) true)).Malformed ∧
    (st.setMsg (st.messageAfter (8 + st.bodyLength) true)).ScanFits

/-- The library refuses the message, and then waits for ever for more bytes to drop. -/
def RefusedForEver : Prop :=
  st.protocolId = 0 ∧ (st.setMsg (st.messageAfter (8 + st.bodyLength) true)).Malformed ∧
    FallsShort (st.conn.incoming.drop (8 + st.bodyLength)) msgBufSize

/-- What the peer does next does not make the poll fail. -/
def Tolerable : Prop :=
  ¬ st.conn.incoming.ArrivesWithin st.readLimit 1 ∨
    CutOff (st.conn.incoming.drop 1) st.byteLimit 7 ∨
    st.HeaderArrives ∧ (2 ≤ st.lengthField ∧ st.lengthField ≤ 255) ∧
      (st.BodyCutOff ∨ st.BodyArrives ∧ (st.WellFormed ∨ st.RefusedForEver))

instance : Decidable st.HeaderArrives := inferInstanceAs (Decidable (_ ∧ _))

instance : Decidable st.BodyCutOff := inferInstanceAs (Decidable (_ ∨ _))

instance : Decidable st.BodyArrives := inferInstanceAs (Decidable (_ ∧ _ ∧ _))

instance : Decidable st.Tolerable := by
  unfold Tolerable WellFormed RefusedForEver
  infer_instance

end Nmbs

def Nmbs.Harmless (st : Nmbs σ) : Prop :=
  ¬ st.Malformed ∧ st.ScanFits ∨ st.Malformed ∧ FallsShort st.conn.incoming msgBufSize

def Waits (conn : Conn) (halted : Halt) : Prop := halted = .running ∧ ¬ conn.LetsGo

def Stops (st : Nmbs σ) (halted : Halt) : Prop :=
  Waits st.conn halted ∨ ¬ st.Tolerable ∧ halted = .undefined

inductive HeaderOutcome (st : Nmbs σ) : NmbsError × Bool → Nmbs σ → Prop
  | idle (h : st.Tolerable) {st' : Nmbs σ} (hprogress : st.conn.Progress st'.conn) :
      HeaderOutcome st (.timeout, false) st'
  | closed (h : st.Tolerable) (first : Bool) {st' : Nmbs σ} :
      HeaderOutcome st (.transport, first) st'
  | broken (h : ¬ st.Tolerable) {err : NmbsError} (herr : err = .timeout ∨ err = .invalidTcpMbap)
      {st' : Nmbs σ} : HeaderOutcome st (err, true) st'
  | message {st' : Nmbs σ} (h : st.Tolerable ↔ st'.Harmless)
      (hready : st'.Ready) (hprogress : st.conn.Progress st'.conn) :
      HeaderOutcome st (.none, true) st'

/-- `recv_msg_header` from the length check on. -/
def recvBody (length protocolId : UInt16) : NmbsM σ (NmbsError × Bool) := do
  if length < 2 ∨ 255 < length then return (.invalidTcpMbap, true)
  let err ← recv (length.toNat - 2)
  if err ≠ .none then return (err, true)
  if protocolId ≠ 0 then return (.invalidTcpMbap, true)
  Program.modify fun st => { st with msg := { st.msg with complete := true } }
  return (.none, true)

def recvFields : NmbsM σ (NmbsError × Bool) := do
  let err ← recv 7
  if err ≠ .none then return (err, true)
  msgBufReset
  let transactionId ← get2
  let protocolId ← get2
  let length ← get2
  let unitId ← get1
  let fc ← get1
  Program.modify fun st =>
    { st with msg := { st.msg with transactionId := transactionId, unitId := unitId, fc := fc } }
  recvBody length protocolId

section Receiving

variable {st : Nmbs σ}

theorem waits_of_blocked {conn conn' : Conn} (hlater : conn.Later conn') {count : Nat}
    {byteTimeoutMs : Int} (h : modbusTransportRead conn' count byteTimeoutMs = none) :
    Waits conn .running := by
  refine ⟨rfl, fun hgo => ?_⟩
  obtain ⟨result, hread, _⟩ := read_of_ends count byteTimeoutMs (hlater hgo).1.ends
  rw [h] at hread
  exact absurd hread (by simp)

theorem waits_of_sendBlocks {conn conn' : Conn} (hlater : conn.Later conn')
    (h : conn'.SendBlocks) : Waits conn .running :=
  ⟨rfl, fun hgo => (hlater hgo).1.reads 0 h⟩

theorem wp_recv_read {H : Halt → Prop} {count : Nat} {Q : NmbsError → Nmbs σ → Prop}
    (hcomplete : st.msg.complete = false)
    (hblocked : modbusTransportRead st.conn count st.byteTimeoutMs = none → H .running)
    (hQ : ∀ result, modbusTransportRead st.conn count st.byteTimeoutMs = some result →
      st.msg.bufIdx + result.bytes.length ≤ msgBufSize ∧ Q (transportError result.value count)
        ((st.setConn result.conn).setBuf (storeAt st.msg.buf st.msg.bufIdx result.bytes))) :
    Wp H (recv count) Q st := by
  unfold Wp recv
  rw [if_neg (by rw [hcomplete]; decide)]
  cases hread : modbusTransportRead st.conn count st.byteTimeoutMs with
  | none => exact hblocked hread
  | some result =>
      obtain ⟨hfit, hpost⟩ := hQ result hread
      simp only [if_neg (not_lt.mpr hfit)]
      exact hpost

theorem wp_recv_arrives {H : Halt → Prop} {count : Nat} {Q : NmbsError → Nmbs σ → Prop}
    (hcomplete : st.msg.complete = false) (hcount : 0 < count)
    (hfit : st.msg.bufIdx + count ≤ msgBufSize)
    (h : st.conn.incoming.ArrivesWithin (st.conn.readLimit st.byteTimeoutMs) count) :
    Wp H (recv count) Q st ↔
      Q .none ((st.setConn (st.conn.advance st.byteTimeoutMs count)).setBuf
        (storeAt st.msg.buf st.msg.bufIdx (st.conn.incoming.elements.take count))) := by
  have hlength : (st.conn.incoming.elements.take count).length = count := by simpa using h.1
  have hrun : recv count st = .ok (.none, (st.setConn (st.conn.advance st.byteTimeoutMs
      count)).setBuf (storeAt st.msg.buf st.msg.bufIdx
        (st.conn.incoming.elements.take count))) := by
    rw [recv, if_neg (by rw [hcomplete]; decide), read_of_arrives hcount h]
    simp only [hlength, if_neg (not_lt.mpr hfit), transportError, if_true]
  exact wp_of_eq hrun Q

/-- More bytes than fit are written behind the buffer. -/
theorem wp_recv_overflow {H : Halt → Prop} {count : Nat} {Q : NmbsError → Nmbs σ → Prop}
    (hcomplete : st.msg.complete = false) (hcount : 0 < count)
    (hlarge : msgBufSize < st.msg.bufIdx + count)
    (h : st.conn.incoming.ArrivesWithin (st.conn.readLimit st.byteTimeoutMs) count) :
    Wp H (recv count) Q st ↔ H .undefined := by
  have hlength : (st.conn.incoming.elements.take count).length = count := by simpa using h.1
  have hrun : recv count st = .error .undefined := by
    rw [recv, if_neg (by rw [hcomplete]; decide), read_of_arrives hcount h]
    simp only [hlength, if_pos hlarge]
  rw [Wp, hrun]

theorem storeAt_append (buf : Cells UInt8) (start : Nat) (xs ys : List UInt8) :
    storeAt (storeAt buf start xs) (start + xs.length) ys = storeAt buf start (xs ++ ys) := by
  ext i : 1
  simp only [storeAt, List.length_append]
  by_cases hlow : i < start + xs.length
  · have hpiece : ¬ (start + xs.length ≤ i ∧ i < start + xs.length + ys.length) := by omega
    have hrange : (start ≤ i ∧ i < start + (xs.length + ys.length)) ↔
        (start ≤ i ∧ i < start + xs.length) := by omega
    simp only [if_neg hpiece, hrange]
    split_ifs with hin
    · rw [List.getD_append _ _ _ _ (by omega)]
    · rfl
  · have hrange : (start + xs.length ≤ i ∧ i < start + xs.length + ys.length) ↔
        (start ≤ i ∧ i < start + (xs.length + ys.length)) := by omega
    have hpiece : ¬ (start ≤ i ∧ i < start + xs.length) := by omega
    simp only [hrange, if_neg hpiece]
    split_ifs with hin
    · rw [List.getD_append_right _ _ _ _ (by omega), Nat.sub_sub]
    · rfl

theorem bufferAfter_add (st : Nmbs σ) {m : Nat} (n : Nat)
    (hm : m ≤ st.conn.incoming.arrivals.length) :
    storeAt (st.bufferAfter m) m ((st.conn.incoming.drop m).elements.take n) =
      st.bufferAfter (m + n) := by
  have hlength : (st.conn.incoming.elements.take m).length = m := by simpa using hm
  have happend := storeAt_append st.msg.buf 0 (st.conn.incoming.elements.take m)
    ((st.conn.incoming.drop m).elements.take n)
  rw [hlength, Nat.zero_add, TimedStream.elements_drop, ← List.take_add] at happend
  rw [TimedStream.elements_drop]
  exact happend

theorem gotFields_incoming (st : Nmbs σ) :
    st.gotFields.conn.incoming = st.conn.incoming.drop 8 :=
  TimedStream.drop_drop _ 1 7

theorem gotFields_readLimit (st : Nmbs σ) :
    st.gotFields.conn.readLimit st.byteTimeoutMs = st.byteLimit := by
  have hsame : ∀ rcvTimeo, rcvTimeoFor (rcvTimeoFor rcvTimeo st.byteTimeoutMs)
      st.byteTimeoutMs = rcvTimeoFor rcvTimeo st.byteTimeoutMs := by
    intro rcvTimeo
    unfold rcvTimeoFor
    split_ifs <;> rfl
  exact congrArg Conn.limitOf (hsame _)

theorem Nmbs.HeaderArrives.eight_le (h : st.HeaderArrives) :
    8 ≤ st.conn.incoming.arrivals.length := by
  have hrest := h.2.1
  rw [TimedStream.drop, List.length_drop] at hrest
  omega

theorem transportError_neg (count : Nat) : transportError (-1) count = .transport := by
  have hne : (-1 : Int) ≠ count := by omega
  have hlt : (-1 : Int) < count := by omega
  rw [transportError, if_neg hne, if_pos hlt, if_pos (by decide)]

theorem wp_recvMsgHeader_of_first {H : Halt → Prop} {Q : NmbsError × Bool → Nmbs σ → Prop}
    (hfirst : st.conn.incoming.ArrivesWithin st.readLimit 1) :
    Wp H recvMsgHeader Q st ↔ Wp H recvFields Q st.gotFirst := by
  rw [recvMsgHeader, wp_withState]
  dsimp only
  rw [wp_bind, wp_modify, wp_bind, msgStateReset, wp_modify, wp_bind,
    wp_recv_arrives rfl Nat.one_pos (Nat.le_of_ble_eq_true rfl) hfirst, wp_bind, wp_modify,
    if_neg (by decide), wp_bind, discardN, wp_modify]
  rfl

theorem wp_recvFields_of_header {H : Halt → Prop} {Q : NmbsError × Bool → Nmbs σ → Prop}
    (hheader : st.HeaderArrives) :
    Wp H recvFields Q st.gotFirst ↔
      Wp H (recvBody st.lengthField st.protocolId) Q st.gotFields := by
  have hbuffer : storeAt st.gotFirst.msg.buf st.gotFirst.msg.bufIdx
      (st.gotFirst.conn.incoming.elements.take 7) = st.bufferAfter 8 :=
    bufferAfter_add st 7 hheader.1.1
  rw [recvFields, wp_bind, wp_recv_arrives rfl (by decide) (Nat.le_of_ble_eq_true rfl) hheader.2,
    if_neg (by decide), hbuffer]
  show Wp H _ Q st.gotHeader ↔ _
  rw [wp_bind, msgBufReset, wp_modify, wp_bind, wp_get2 (by decide), wp_bind,
    wp_get2 (by decide), wp_bind, wp_get2 (by decide), wp_bind, wp_get1 (by decide), wp_bind,
    wp_get1 (by decide), wp_bind, wp_modify]
  rfl

theorem Nmbs.HeaderArrives.progress (h : st.HeaderArrives) :
    st.conn.Progress st.gotFields.conn :=
  (progress_advance Nat.one_pos h.1).later ((Conn.Later.refl _).advance (by decide) h.2)

theorem wp_checked {st' : Nmbs σ}
    (hwell : st.Tolerable ↔ st.WellFormed ∨ st.RefusedForEver)
    (hmsg : st'.msg = st.messageAfter (8 + st.bodyLength) false)
    (hincoming : st'.conn.incoming = st.conn.incoming.drop (8 + st.bodyLength))
    (hprogress : st.conn.Progress st'.conn) :
    Wp (Stops st) (do
      if st.protocolId ≠ 0 then return (.invalidTcpMbap, true)
      Program.modify fun st => { st with msg := { st.msg with complete := true } }
      return (.none, true)) (HeaderOutcome st) st' := by
  by_cases hprotocol : st.protocolId = 0
  · have hdone : { st'.msg with complete := true } =
        st.messageAfter (8 + st.bodyLength) true := by
      rw [hmsg]
      rfl
    rw [if_neg (not_not.mpr hprotocol), wp_bind, wp_modify, wp_pure, hdone]
    have hsame : (st.setMsg (st.messageAfter (8 + st.bodyLength) true)).msg =
        (st'.setMsg (st.messageAfter (8 + st.bodyLength) true)).msg := rfl
    rw [WellFormed, RefusedForEver, malformed_congr hsame, scanFits_congr hsame, ← hincoming,
      and_iff_right hprotocol, and_iff_right hprotocol] at hwell
    exact .message hwell ⟨rfl, rfl⟩ hprogress
  · rw [if_pos hprotocol, wp_pure]
    exact .broken (fun h => hprotocol ((hwell.mp h).elim And.left And.left)) (.inr rfl)

/-- A header that has come leaves the question of its length and its body. -/
theorem tolerable_iff_of_header (hheader : st.HeaderArrives) :
    st.Tolerable ↔ (2 ≤ st.lengthField ∧ st.lengthField ≤ 255) ∧
      (st.BodyCutOff ∨ st.BodyArrives ∧ (st.WellFormed ∨ st.RefusedForEver)) := by
  constructor
  · rintro (hsilent | hcut | ⟨_, h⟩)
    · exact absurd hheader.1 hsilent
    · exact absurd hheader.2 (hcut.not_arrives (by decide))
    · exact h
  · exact fun h => .inr (.inr ⟨hheader, h⟩)

section Interrupted

variable {st' : Nmbs σ} {count : Nat} (hcomplete : st'.msg.complete = false) (hcount : 0 < count)
  (rest : NmbsM σ (NmbsError × Bool))
include hcomplete hcount

theorem wp_recv_of_cutOff (htolerable : st.Tolerable) (hlater : st.conn.Later st'.conn)
    (hfit : st'.msg.bufIdx ≤ msgBufSize)
    (hcut : CutOff st'.conn.incoming (st'.conn.readLimit st'.byteTimeoutMs) count) :
    Wp (Stops st) (do
      let err ← recv count
      if err ≠ .none then return (err, true)
      rest) (HeaderOutcome st) st' := by
  rw [wp_bind]
  apply wp_recv_read hcomplete
  · exact fun hread => .inl (waits_of_blocked hlater hread)
  · intro result hread
    obtain ⟨hvalue, hbytes⟩ := read_of_cutOff hcount hcut hread
    rw [hbytes, hvalue, transportError_neg, if_pos (by decide)]
    exact ⟨hfit, .closed htolerable true⟩

theorem wp_recv_of_partial (hintolerable : ¬ st.Tolerable)
    (hfit : st'.msg.bufIdx + count ≤ msgBufSize + 1)
    (hlate : ¬ st'.conn.incoming.ArrivesWithin (st'.conn.readLimit st'.byteTimeoutMs) count)
    (hcut : ¬ CutOff st'.conn.incoming (st'.conn.readLimit st'.byteTimeoutMs) count) :
    Wp (Stops st) (do
      let err ← recv count
      if err ≠ .none then return (err, true)
      rest) (HeaderOutcome st) st' := by
  obtain ⟨result, hread, hvalue, hbytes⟩ := read_of_partial hcount hlate hcut
  rw [wp_bind]
  apply wp_recv_read hcomplete
  · exact fun hblocked => absurd (hread.symm.trans hblocked) (Option.some_ne_none _)
  · intro result' hread'
    obtain rfl := Option.some.inj (hread.symm.trans hread')
    have htimeout : transportError result.value count = .timeout := by
      have hne : (result.bytes.length : Int) ≠ count := by omega
      have hlt : (result.bytes.length : Int) < count := by omega
      rw [transportError, hvalue, if_neg hne, if_pos hlt, if_neg (by omega)]
    rw [htimeout, if_pos (by decide)]
    exact ⟨by omega, .broken hintolerable (.inl rfl)⟩

end Interrupted

theorem wp_noBody (hheader : st.HeaderArrives) (hempty : st.bodyLength = 0)
    (htolerable : st.Tolerable) (rest : NmbsM σ (NmbsError × Bool)) :
    Wp (Stops st) (do
      let err ← recv st.bodyLength
      if err ≠ .none then return (err, true)
      rest) (HeaderOutcome st) st.gotFields := by
  rw [hempty, wp_bind]
  apply wp_recv_read rfl
  · exact fun hread => .inl (waits_of_blocked hheader.progress.le hread)
  · intro result hread
    obtain ⟨hbytes, hvalue⟩ := read_nothing hread
    rw [hbytes, hvalue, transportError_neg, if_pos (by decide)]
    exact ⟨Nat.le_of_ble_eq_true rfl, .closed htolerable true⟩

theorem wp_someBody (hheader : st.HeaderArrives) (hpos : 0 < st.bodyLength)
    (hlength : st.lengthField ≤ 255)
    (htolerable : st.Tolerable ↔
      st.BodyCutOff ∨ st.BodyArrives ∧ (st.WellFormed ∨ st.RefusedForEver)) :
    Wp (Stops st) (do
      let err ← recv st.bodyLength
      if err ≠ .none then return (err, true)
      if st.protocolId ≠ 0 then return (.invalidTcpMbap, true)
      Program.modify fun st => { st with msg := { st.msg with complete := true } }
      return (.none, true)) (HeaderOutcome st) st.gotFields := by
  have hprogress := hheader.progress
  have hbytes : st.bodyLength ≤ 253 := by
    have hsize : st.lengthField.toNat ≤ 255 := hlength
    rw [bodyLength]
    omega
  have hcut_iff : st.BodyCutOff ↔ CutOff st.gotFields.conn.incoming
      (st.gotFields.conn.readLimit st.byteTimeoutMs) st.bodyLength := by
    rw [BodyCutOff, or_iff_right hpos.ne', gotFields_incoming, gotFields_readLimit]
  have harrives_iff : st.BodyArrives ↔ 8 + st.bodyLength ≤ msgBufSize ∧
      st.gotFields.conn.incoming.ArrivesWithin
        (st.gotFields.conn.readLimit st.byteTimeoutMs) st.bodyLength := by
    rw [BodyArrives, and_iff_right hpos, gotFields_incoming, gotFields_readLimit]
  by_cases hcut : CutOff st.gotFields.conn.incoming
      (st.gotFields.conn.readLimit st.byteTimeoutMs) st.bodyLength
  · exact wp_recv_of_cutOff rfl hpos _ (htolerable.mpr (.inl (hcut_iff.mpr hcut))) hprogress.le
      (Nat.le_of_ble_eq_true rfl) hcut
  · rw [hcut_iff, or_iff_right hcut] at htolerable
    by_cases harrives : st.gotFields.conn.incoming.ArrivesWithin
        (st.gotFields.conn.readLimit st.byteTimeoutMs) st.bodyLength
    · by_cases hfit : 8 + st.bodyLength ≤ msgBufSize
      · rw [and_iff_right (harrives_iff.mpr ⟨hfit, harrives⟩)] at htolerable
        rw [wp_bind, wp_recv_arrives rfl hpos hfit harrives, if_neg (by decide)]
        have hincoming : (st.gotFields.conn.advance st.byteTimeoutMs st.bodyLength).incoming =
            st.conn.incoming.drop (8 + st.bodyLength) := by
          rw [Conn.advance, gotFields_incoming, TimedStream.drop_drop]
        apply wp_checked htolerable _ hincoming
          (hprogress.later ((Conn.Later.refl _).advance hpos harrives))
        have hbuffer := bufferAfter_add st st.bodyLength hheader.eight_le
        rw [← gotFields_incoming] at hbuffer
        rw [messageAfter, ← hbuffer]
        rfl
      · have hintolerable : ¬ st.Tolerable := fun h =>
          hfit (harrives_iff.mp (htolerable.mp h).1).1
        rw [wp_bind, wp_recv_overflow rfl hpos (not_le.mp hfit) harrives]
        exact .inr ⟨hintolerable, rfl⟩
    · have hintolerable : ¬ st.Tolerable := fun h =>
        harrives (harrives_iff.mp (htolerable.mp h).1).2
      exact wp_recv_of_partial rfl hpos _ hintolerable
        (by show 8 + st.bodyLength ≤ 260 + 1; omega) harrives hcut

theorem wp_recvBody (hheader : st.HeaderArrives) :
    Wp (Stops st) (recvBody st.lengthField st.protocolId) (HeaderOutcome st) st.gotFields := by
  have htolerable := tolerable_iff_of_header hheader
  rw [recvBody]
  by_cases hlength : 2 ≤ st.lengthField ∧ st.lengthField ≤ 255
  · have hshort : ¬ (st.lengthField < 2 ∨ 255 < st.lengthField) := by
      rw [not_or, UInt16.not_lt, UInt16.not_lt]
      exact hlength
    rw [and_iff_right hlength] at htolerable
    rw [if_neg hshort]
    obtain hempty | hpos := Nat.eq_zero_or_pos st.bodyLength
    · exact wp_noBody hheader hempty (htolerable.mpr (.inl (.inl hempty))) _
    · exact wp_someBody hheader hpos hlength.2 htolerable
  · have hbad : st.lengthField < 2 ∨ 255 < st.lengthField := by
      rw [not_and_or, UInt16.not_le, UInt16.not_le] at hlength
      exact hlength
    rw [if_pos hbad, wp_pure]
    exact .broken (fun h => hlength (htolerable.mp h).1) (.inr rfl)

theorem wp_recvMsgHeader (st : Nmbs σ) :
    Wp (Stops st) recvMsgHeader (HeaderOutcome st) st := by
  by_cases hfirst : st.conn.incoming.ArrivesWithin st.readLimit 1
  · rw [wp_recvMsgHeader_of_first hfirst]
    by_cases hrest : (st.conn.incoming.drop 1).ArrivesWithin st.byteLimit 7
    · rw [wp_recvFields_of_header ⟨hfirst, hrest⟩]
      exact wp_recvBody ⟨hfirst, hrest⟩
    · by_cases hcut : CutOff (st.conn.incoming.drop 1) st.byteLimit 7
      · exact wp_recv_of_cutOff rfl (by decide) _ (.inr (.inl hcut))
          ((Conn.Later.refl _).advance Nat.one_pos hfirst) (Nat.le_of_ble_eq_true rfl) hcut
      · have hintolerable : ¬ st.Tolerable := by
          rintro (hsilent | hcut' | ⟨hheader, _⟩)
          · exact hsilent hfirst
          · exact hcut hcut'
          · exact hrest hheader.2
        exact wp_recv_of_partial rfl (by decide) _ hintolerable (Nat.le_of_ble_eq_true rfl) hrest
          hcut
  · have htolerable : st.Tolerable := .inl hfirst
    rw [recvMsgHeader, wp_withState]
    dsimp only
    rw [wp_bind, wp_modify, wp_bind, msgStateReset, wp_modify, wp_bind]
    apply wp_recv_read rfl
    · exact fun hread => .inl (waits_of_blocked (Conn.Later.refl _) hread)
    · intro result hread
      obtain ⟨hbytes, hvalue⟩ := read_of_silent hfirst hread
      rw [hbytes, wp_bind, wp_modify]
      refine ⟨Nat.zero_le _, ?_⟩
      obtain hvalue | ⟨hvalue, hlater⟩ := hvalue
      · rw [hvalue, if_pos (by decide)]
        exact .closed htolerable false
      · rw [hvalue, if_pos (by decide)]
        exact .idle htolerable (progress_of_read hread (.inr hlater))

theorem Nmbs.AnswersOn.later {conn : Conn} (h : st.AnswersOn conn) : st.conn.Later conn := by
  unfold AnswersOn at h
  split_ifs at h
  · rw [h]
    exact Conn.Later.refl _
  · obtain ⟨result, hread, rfl⟩ := h
    exact later_of_read hread

/-- A poll looks at the result of its handler; when an answer could not be sent, or the
message was refused, it drops what the peer has sent. -/
theorem wp_afterHandler {start st' : Nmbs σ} {err : NmbsError}
    (hprogress : start.conn.Progress st'.conn)
    {Q : NmbsError → Nmbs σ → Prop} (hnone : err = .none → Q .none st')
    (hfailed : err ≠ .none → ∀ st'', Q err st'') :
    Wp (Stops start) (do
      if err ≠ .none then
        if err ≠ .timeout then flush
        return err
      return .none) Q st' := by
  by_cases herr : err = .none
  · rw [if_neg (not_not.mpr herr)]
    exact hnone herr
  · rw [if_pos herr]
    by_cases htimeout : err = .timeout
    · rw [if_neg (not_not.mpr htimeout)]
      exact hfailed herr _
    · rw [if_pos htimeout, wp_bind]
      apply wp_flush
      · exact fun hread => .inl (waits_of_blocked hprogress.le hread)
      · exact fun _ _ st'' _ _ => hfailed herr st''

theorem Replied.progress {start st' : Nmbs σ} {fc : UInt8} {err : NmbsError} {conn : Conn}
    (hreplied : Replied start fc err st') (hprogress : conn.Progress start.conn) :
    (err = .none ∨ err = .transport) ∧ conn.Progress st'.conn := by
  obtain ⟨bytes, o, _, _, hconn⟩ := hreplied.answer
  rw [hconn, hreplied.err_eq]
  refine ⟨?_, hprogress.later (later_sent _ _ _)⟩
  split_ifs
  · exact .inl rfl
  · exact .inr rfl

/-- A handled message ends in an answer, and an answer in `NONE` or `TRANSPORT`. -/
theorem wp_handleReqFc_of_tolerable {start : Nmbs σ} (hst : st.Ready) (hwell : ¬ st.Malformed)
    (hscan : st.ScanFits) (hprogress : start.conn.Progress st.conn) :
    Wp (Stops start) handleReqFc (fun err st' => (err = .none ∨ err = .transport) ∧
      start.conn.Progress st'.conn) st := by
  apply wp_mono (wp_handleReqFc hst (fun _ hnofit => absurd hscan hnofit)
    (fun _ hread => .inl (waits_of_blocked hprogress.le hread))
    fun hnone => .inl (waits_of_sendBlocks hprogress.le hnone))
  rintro err st' ⟨conn, hanswers, hhandled⟩
  have hprogress' : start.conn.Progress conn := hprogress.later hanswers.later
  cases hhandled with
  | invalid hmalformed _ => exact absurd hmalformed hwell
  | notAsked _ _ hreplied => exact hreplied.progress hprogress'
  | refused _ _ _ hreplied => exact hreplied.progress hprogress'
  | served _ _ _ hreplied => exact hreplied.progress hprogress'

theorem wp_handleReqFc_of_overrun {H : Halt → Prop} (hH : H .undefined) (hst : st.Ready)
    (hwell : ¬ st.Malformed) (hscan : ¬ st.ScanFits) (Q : NmbsError → Nmbs σ → Prop) :
    Wp H handleReqFc Q st := by
  rw [ScanFits, Classical.not_imp, Classical.not_imp, Bool.not_eq_true] at hscan
  obtain ⟨hfc, hsize, hfit⟩ := hscan
  rw [Malformed, hfc] at hwell
  rw [handleReqFc, wp_withState, hfc]
  exact wp_handleWriteFileRecord_of_overrun hH hst hwell hsize hfit Q

theorem wp_handleReqFc_of_malformed {start : Nmbs σ} (hst : st.Ready) (hmalformed : st.Malformed)
    (hprogress : start.conn.Progress st.conn) :
    Wp (Stops start) handleReqFc (fun err st' => err = .invalidRequest ∧ st'.conn = st.conn)
      st := by
  have hfc : st.msg.fc.toNat ∈ supportedFcs := by
    by_contra hunsupported
    exact not_malformed_of_unsupported hunsupported hmalformed
  apply wp_mono (wp_handleReqFc hst (absurd hmalformed) (absurd hfc)
    fun hnone => .inl (waits_of_sendBlocks hprogress.le hnone))
  rintro err st' ⟨conn, hanswers, hhandled⟩
  rw [AnswersOn, if_pos hfc] at hanswers
  cases hhandled with
  | invalid _ hframed => exact ⟨rfl, hframed.conn_eq.trans hanswers⟩
  | notAsked hvalid _ _ => exact absurd hmalformed hvalid
  | refused hvalid _ _ _ => exact absurd hmalformed hvalid
  | served hvalid _ _ _ => exact absurd hmalformed hvalid

/-- What a poll does, by what its peer does. -/
theorem wp_nmbsServerPoll (st : Nmbs σ) :
    Wp (Stops st) nmbsServerPoll (fun err st' =>
      st.Tolerable ∧ (err = .none ∧ st.conn.Progress st'.conn ∨ err = .transport) ∨
        ¬ st.Tolerable ∧ err ≠ .none ∧ err ≠ .transport) st := by
  rw [nmbsServerPoll, wp_bind, msgStateReset, wp_modify, wp_bind]
  apply wp_mono (wp_recvMsgHeader st.reset)
  rintro ⟨err, first⟩ st₁ houtcome
  dsimp only
  cases houtcome with
  | idle htolerable hprogress => exact .inl ⟨htolerable, .inl ⟨rfl, hprogress⟩⟩
  | closed htolerable first =>
      rw [if_pos (by decide), if_neg (by simp)]
      exact .inl ⟨htolerable, .inr rfl⟩
  | broken hintolerable herr =>
      obtain rfl | rfl := herr
      · exact .inr ⟨hintolerable, by decide, by decide⟩
      · exact .inr ⟨hintolerable, by decide, by decide⟩
  | message htolerable hready hprogress =>
      rw [if_neg (by decide), wp_bind]
      by_cases hmalformed : st₁.Malformed
      · -- the library comes back from the flush exactly when enough is there to drop
        have hdrops : st.Tolerable ↔ FallsShort st₁.conn.incoming msgBufSize := by
          refine Iff.trans htolerable ?_
          rw [Harmless, and_iff_right hmalformed]
          exact or_iff_right fun h => h.1 hmalformed
        apply wp_mono (wp_handleReqFc_of_malformed hready hmalformed hprogress)
        rintro err st₂ ⟨rfl, hconn⟩
        rw [if_pos (by decide), if_pos (by decide), wp_bind]
        rw [← hconn] at hprogress hdrops
        apply wp_flush fun hread => .inl (waits_of_blocked hprogress.le hread)
        intro result hread st₃ _ _
        refine .inr ⟨fun h => ?_, by decide, by decide⟩
        rw [(read_eq_none_iff _ (by decide)).mpr (hdrops.mp h)] at hread
        exact absurd hread (Option.some_ne_none _).symm
      · have hscans : st.Tolerable ↔ st₁.ScanFits := by
          refine Iff.trans htolerable ?_
          rw [Harmless, and_iff_right hmalformed]
          exact or_iff_left fun h => hmalformed h.1
        by_cases hscan : st₁.ScanFits
        · have h := hscans.mpr hscan
          apply wp_mono (wp_handleReqFc_of_tolerable hready hmalformed hscan hprogress)
          rintro err st₂ ⟨herr, hprogress₂⟩
          apply wp_afterHandler hprogress₂
          · exact fun _ => .inl ⟨h, .inl ⟨rfl, hprogress₂⟩⟩
          · exact fun hfailed _ => .inl ⟨h, .inr (herr.resolve_left hfailed)⟩
        · apply wp_handleReqFc_of_overrun _ hready hmalformed hscan
          exact .inr ⟨hscans.not.mpr hscan, rfl⟩

end Receiving

end DriveSim
