import DriveSim.Nmbs.Prompt
import DriveSim.Server.Interleaving

/-!
# Requests and answers on the wire

The requests a client may make of the application, the messages it sends for them, and the
messages that answer it.  The library turns one into the other through the answer of the
application alone.
-/

namespace DriveSim

open Lib Program Nmbs

inductive Query
  | readDiscreteInputs (address quantity : UInt16)
  | readHoldingRegisters (address quantity : UInt16)
  | readInputRegisters (address quantity : UInt16)
  | writeSingleRegister (address value : UInt16)
  | writeMultipleRegisters (address : UInt16) (values : List UInt16)

namespace Query

def fc : Query → UInt8
  | readDiscreteInputs .. => 2
  | readHoldingRegisters .. => 3
  | readInputRegisters .. => 4
  | writeSingleRegister .. => 6
  | writeMultipleRegisters .. => 16

def address : Query → UInt16
  | readDiscreteInputs address _ | readHoldingRegisters address _ | readInputRegisters address _
  | writeSingleRegister address _ | writeMultipleRegisters address _ => address

def word : Query → UInt16
  | readDiscreteInputs _ quantity | readHoldingRegisters _ quantity
  | readInputRegisters _ quantity => quantity
  | writeSingleRegister _ value => value
  | writeMultipleRegisters _ values => UInt16.ofNat values.length

def tail : Query → List UInt8
  | writeMultipleRegisters _ values =>
      UInt8.ofNat (2 * values.length) :: values.flatMap wordBytes
  | _ => []

def body (q : Query) : List UInt8 := wordBytes q.address ++ wordBytes q.word ++ q.tail

def Valid : Query → Prop
  | readDiscreteInputs address quantity =>
      1 ≤ quantity ∧ quantity ≤ 2000 ∧ InRange address quantity
  | readHoldingRegisters address quantity | readInputRegisters address quantity =>
      1 ≤ quantity ∧ quantity ≤ 125 ∧ InRange address quantity
  | writeSingleRegister .. => True
  | writeMultipleRegisters address values =>
      1 ≤ values.length ∧ values.length ≤ 123 ∧ address.toNat + values.length ≤ 0xFFFF + 1

instance : DecidablePred Valid
  | readDiscreteInputs .. | readHoldingRegisters .. | readInputRegisters ..
  | writeMultipleRegisters .. => inferInstanceAs (Decidable (_ ∧ _ ∧ _))
  | writeSingleRegister .. => isTrue trivial

/-- The callback that is asked; read callbacks get cleared cells. -/
def request : Query → AppRequest
  | readDiscreteInputs address quantity => .readDiscreteInputs address quantity fun _ => 0
  | readHoldingRegisters address quantity => .readHoldingRegisters address quantity fun _ => 0
  | readInputRegisters address quantity => .readInputRegisters address quantity fun _ => 0
  | writeSingleRegister address value => .writeSingleRegister address value
  | writeMultipleRegisters address values =>
      .writeMultipleRegisters address (UInt16.ofNat values.length) fun i => values.getD i 0

def data (q : Query) : AppResponse → List UInt8
  | .bits _ out =>
      let bytes := (q.word.toNat + 7) / 8
      UInt8.ofNat bytes :: cellBytes out 0 bytes
  | .registers _ out => registersData q.word out
  | .written _ => wordBytes q.address ++ wordBytes q.word

end Query

structure Call where
  transactionId : UInt16
  unitId : UInt8
  query : Query
  valid : query.Valid

theorem length_flatMap_wordBytes (values : List UInt16) :
    (values.flatMap wordBytes).length = 2 * values.length := by
  induction values with
  | nil => rfl
  | cons value values ih =>
      rw [List.flatMap_cons, List.length_append, ih, length_wordBytes, List.length_cons]
      omega

theorem Query.Valid.length_tail {q : Query} (h : q.Valid) : q.tail.length ≤ 247 := by
  cases q with
  | writeMultipleRegisters address values =>
      have hlength : values.length ≤ 123 := h.2.1
      rw [tail, List.length_cons, length_flatMap_wordBytes]
      omega
  | _ => exact Nat.zero_le _

namespace Call

theorem length_body (c : Call) : c.query.body.length = 4 + c.query.tail.length := by
  rw [Query.body, List.length_append]
  rfl

def message (c : Call) : Message where
  transactionId := c.transactionId
  unitId := c.unitId
  fc := c.query.fc
  body := c.query.body
  body_pos := by
    rw [c.length_body]
    omega
  body_le := by
    have htail := c.valid.length_tail
    rw [c.length_body]
    omega

def encode (c : Call) (r : AppResponse) : List UInt8 :=
  if r.error ≠ .none then
    frame c.transactionId c.unitId (c.query.fc + 0x80)
      [UInt8.ofNat (callbackException r.error).code.toNat]
  else frame c.transactionId c.unitId c.query.fc (c.query.data r)

end Call

/-! ## The call in the buffer -/

theorem getD_flatMap_wordBytes {values : List UInt16} {i : Nat} (hi : i < values.length) :
    word ((values.flatMap wordBytes).getD (2 * i) 0)
        ((values.flatMap wordBytes).getD (2 * i + 1) 0) =
      values.getD i 0 := by
  induction values generalizing i with
  | nil => exact absurd hi (Nat.not_lt_zero _)
  | cons value values ih =>
      cases i with
      | zero => exact word_wordBytes value
      | succ i => exact ih (Nat.lt_of_succ_lt_succ hi)

structure Call.InBuffer {σ : Type*} (c : Call) (st : Nmbs σ) : Prop where
  transactionId_eq : st.msg.transactionId = c.transactionId
  unitId_eq : st.msg.unitId = c.unitId
  fc_eq : st.msg.fc = c.query.fc
  cells : ∀ i < 8 + c.query.body.length, st.msg.buf i = c.message.bytes.getD i 0

namespace Call.InBuffer

variable {σ : Type*} {c : Call} {st : Nmbs σ} (h : c.InBuffer st)
include h

theorem byte_eq {i : Nat} (hi : i < c.query.body.length) :
    st.msg.buf (8 + i) = c.query.body.getD i 0 := by
  rw [h.cells _ (by omega), Message.bytes, frame,
    List.getD_append_right _ _ _ _ (by rw [length_mbapHeader]; omega), length_mbapHeader,
    Nat.add_sub_cancel_left]
  rfl

theorem address_eq : st.wordAt 8 = c.query.address := by
  have hlength := c.length_body
  rw [wordAt, h.byte_eq (i := 0) (by omega), h.byte_eq (i := 1) (by omega)]
  exact word_wordBytes _

theorem word_eq : st.wordAt 10 = c.query.word := by
  have hlength := c.length_body
  rw [wordAt, h.byte_eq (i := 2) (by omega), h.byte_eq (i := 3) (by omega)]
  exact word_wordBytes _

theorem tail_eq {i : Nat} (hi : i < c.query.tail.length) :
    st.msg.buf (12 + i) = c.query.tail.getD i 0 := by
  have hlength := c.length_body
  have hindex : 8 + (4 + i) = 12 + i := by omega
  have hbyte := h.byte_eq (i := 4 + i) (by omega)
  rw [hindex, Query.body, List.getD_append_right _ _ _ _ (Nat.le_add_right 4 i)] at hbyte
  rw [hbyte, List.length_append, length_wordBytes, length_wordBytes, Nat.add_sub_cancel_left]

theorem wordsAt_eq {address : UInt16} {values : List UInt16}
    (hquery : c.query = .writeMultipleRegisters address values) :
    (st.msg.buf 12).toNat = 2 * values.length ∧
      st.wordsAt 13 values.length = fun i => values.getD i 0 := by
  have htail : c.query.tail = UInt8.ofNat (2 * values.length) :: values.flatMap wordBytes := by
    rw [hquery, Query.tail]
  have hlength : c.query.tail.length = 1 + 2 * values.length := by
    rw [htail, List.length_cons, length_flatMap_wordBytes, Nat.add_comm]
  have hle := c.valid.length_tail
  constructor
  · have hcount := h.tail_eq (i := 0) (by omega)
    rw [htail, List.getD_cons_zero] at hcount
    rw [hcount, UInt8.toNat_ofNat']
    omega
  · ext i : 1
    rw [wordsAt]
    split_ifs with hi
    · have hhi := h.tail_eq (i := 2 * i + 1) (by omega)
      have hlo := h.tail_eq (i := 2 * i + 1 + 1) (by omega)
      rw [htail, List.getD_cons_succ] at hhi hlo
      have hindex : 12 + (2 * i + 1) = 13 + 2 * i := by omega
      have hindex' : 12 + (2 * i + 1 + 1) = 13 + 2 * i + 1 := by omega
      rw [hindex] at hhi
      rw [hindex'] at hlo
      rw [wordAt, hhi, hlo, getD_flatMap_wordBytes hi]
    · rw [List.getD_eq_default _ _ (not_lt.mp hi)]

end Call.InBuffer

/-! ## The reply to a call -/

theorem Nmbs.checkedReply_of_valid {σ : Type*} {st : Nmbs σ} {limit : UInt16} (reply : Reply × σ)
    (hpos : 1 ≤ st.wordAt 10) (hle : st.wordAt 10 ≤ limit)
    (hrange : InRange (st.wordAt 8) (st.wordAt 10)) : st.checkedReply limit reply = reply := by
  rw [checkedReply, if_neg (quantity_iff.mpr ⟨hpos, hle⟩), if_neg (inRange_iff.mpr hrange)]

theorem Nmbs.readRegistersReply_of_valid {σ : Type*} {st : Nmbs σ} (read : ReadRegisters σ)
    {address quantity : UInt16} (haddress : st.wordAt 8 = address)
    (hword : st.wordAt 10 = quantity)
    (hvalid : 1 ≤ quantity ∧ quantity ≤ 125 ∧ InRange address quantity) :
    st.readRegistersReply (some read) =
      (.ofVerdict (read address quantity (fun _ => 0) st.msg.unitId st.arg).1
        (registersData quantity (read address quantity (fun _ => 0) st.msg.unitId st.arg).2.1),
        (read address quantity (fun _ => 0) st.msg.unitId st.arg).2.2) := by
  subst haddress hword
  rw [readRegistersReply, checkedReply_of_valid _ hvalid.1 hvalid.2.1 hvalid.2.2]
  rfl

section Reply

variable {σ : Type*} {answer : σ → AppRequest → AppResponse × σ} {c : Call} {st : Nmbs σ}

def Call.outcome (c : Call) (r : AppResponse × σ) : Reply × σ :=
  (.ofVerdict r.1.error (c.query.data r.1), r.2)

theorem Call.InBuffer.reply_eq (h : c.InBuffer st) (hserves : Serves st.callbacks answer) :
    st.reply = c.outcome (answer st.arg c.query.request) := by
  have haddress := h.address_eq
  have hword := h.word_eq
  have hvalid := c.valid
  rw [reply, h.fc_eq, Call.outcome]
  cases hquery : c.query with
  | readDiscreteInputs address quantity =>
      rw [hquery] at haddress hword hvalid
      obtain ⟨read, hread, hanswer⟩ := hserves.readDiscreteInputs
      obtain ⟨hpos, hle, hrange⟩ := hvalid
      rw [← show st.wordAt 10 = quantity from hword] at hpos hle
      show st.readDiscreteReply st.callbacks.readDiscreteInputs = _
      rw [hread, readDiscreteReply, checkedReply_of_valid _ hpos hle (by rwa [haddress, hword]),
        Query.request, hanswer _ _ _ st.msg.unitId, readReply, haddress, hword]
      rfl
  | readHoldingRegisters address quantity =>
      rw [hquery] at haddress hword hvalid
      obtain ⟨read, hread, hanswer⟩ := hserves.readHoldingRegisters
      show st.readRegistersReply st.callbacks.readHoldingRegisters = _
      rw [hread, readRegistersReply_of_valid read haddress hword hvalid, Query.request,
        hanswer _ _ _ st.msg.unitId]
      rfl
  | readInputRegisters address quantity =>
      rw [hquery] at haddress hword hvalid
      obtain ⟨read, hread, hanswer⟩ := hserves.readInputRegisters
      show st.readRegistersReply st.callbacks.readInputRegisters = _
      rw [hread, readRegistersReply_of_valid read haddress hword hvalid, Query.request,
        hanswer _ _ _ st.msg.unitId]
      rfl
  | writeSingleRegister address value =>
      rw [hquery] at haddress hword
      obtain ⟨write, hwrite, hanswer⟩ := hserves.writeSingleRegister
      show st.writeSingleRegisterReply = _
      rw [writeSingleRegisterReply, hwrite, Query.request, hanswer _ _ st.msg.unitId]
      dsimp only
      rw [writeReply, haddress, hword]
      rfl
  | writeMultipleRegisters address values =>
      obtain ⟨hcount, hregisters⟩ := h.wordsAt_eq hquery
      rw [hquery] at haddress hword hvalid
      obtain ⟨write, hwrite, hanswer⟩ := hserves.writeMultipleRegisters
      obtain ⟨hpos, hle, hrange⟩ := hvalid
      have hquantity : (st.wordAt 10).toNat = values.length := by
        rw [hword, Query.word, UInt16.toNat_ofNat']
        omega
      have hbytes : ¬ 246 < st.msg.buf 12 := by
        have hlimit : (246 : UInt8).toNat = 246 := rfl
        rw [UInt8.lt_iff_toNat_lt, hcount, hlimit]
        omega
      have hzero : st.msg.buf 12 ≠ 0 := by
        intro hzero
        rw [hzero, UInt8.toNat_zero] at hcount
        omega
      have hhalf : (st.msg.buf 12).toNat / 2 = values.length := by omega
      have hposWord : 1 ≤ st.wordAt 10 := by
        rw [UInt16.le_iff_toNat_le, hquantity]
        exact hpos
      have hleWord : st.wordAt 10 ≤ 0x007B := by
        rw [UInt16.le_iff_toNat_le, hquantity]
        exact hle
      have hinRange : InRange (st.wordAt 8) (st.wordAt 10) := by
        rw [InRange, hquantity, haddress]
        exact hrange
      show st.writeMultipleRegistersReply = _
      rw [writeMultipleRegistersReply, if_neg hbytes,
        checkedReply_of_valid _ hposWord hleWord hinRange, if_neg hzero, if_neg (by omega),
        hwrite, Query.request, hanswer _ _ _ st.msg.unitId]
      dsimp only
      rw [writeReply, hhalf, hregisters, haddress, hword]
      rfl

/-- The answer that goes out is the one the client expects. -/
theorem Call.InBuffer.answer_eq (h : c.InBuffer st) (r : AppResponse × σ) :
    (c.outcome r).1.answer st.msg = some (c.encode r.1) := by
  rw [Call.outcome, Reply.ofVerdict, Call.encode]
  split_ifs
  · rw [Reply.answer, h.transactionId_eq, h.unitId_eq, h.fc_eq]
  · rw [Reply.answer, h.transactionId_eq, h.unitId_eq, h.fc_eq]

theorem Call.inBuffer {rest : List UInt8}
    (h : st.conn.incoming.elements = c.message.bytes ++ rest) : c.InBuffer st.received := by
  obtain ⟨htransactionId, hunitId, hfc, hcells⟩ := Message.received_eq h
  exact ⟨htransactionId, hunitId, hfc, hcells⟩

theorem Query.fc_supported (q : Query) : q.fc.toNat ∈ supportedFcs ∧ q.fc.toNat ≠ 21 := by
  cases q <;> simp [fc, supportedFcs]

end Reply

/-! ## The application behind its wire protocol -/

def wireMachine {σ : Type*} (answer : σ → AppRequest → AppResponse × σ) :
    Machine σ Call (List UInt8) where
  step s c := (c.encode (answer s c.query.request).1, (answer s c.query.request).2)

end DriveSim
