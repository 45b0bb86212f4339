import DriveSim.Nmbs.Transaction
import DriveSim.Server.Queries

/-!
# The calls of a client

Each query of `Query` has a client function in the library.  Called on a connection that
brings the answer of the server, it sends the message of the query and gives back what the
application has answered, as far as the query asked for it.
-/

namespace DriveSim

open Lib Program Nmbs

/-! ## Queries and answers -/

def Query.call (platformFlush : ClientM Unit) : Query → ClientM AppResponse
  | .readDiscreteInputs address quantity => do
      let (err, inputs) ← nmbsReadDiscreteInputs platformFlush address quantity fun _ => 0
      return .bits err inputs
  | .readHoldingRegisters address quantity => do
      let (err, registers) ← nmbsReadHoldingRegisters platformFlush address quantity fun _ => 0
      return .registers err registers
  | .readInputRegisters address quantity => do
      let (err, registers) ← nmbsReadInputRegisters platformFlush address quantity fun _ => 0
      return .registers err registers
  | .writeSingleRegister address value => do
      let err ← nmbsWriteSingleRegister platformFlush address value
      return .written err
  | .writeMultipleRegisters address values => do
      let err ← nmbsWriteMultipleRegisters platformFlush address (UInt16.ofNat values.length)
        fun i => values.getD i 0
      return .written err

namespace Query

def Expects : Query → AppResponse → Prop
  | readDiscreteInputs .., .bits .. => True
  | readHoldingRegisters .., .registers .. => True
  | readInputRegisters .., .registers .. => True
  | writeSingleRegister .., .written .. => True
  | writeMultipleRegisters .., .written .. => True
  | _, _ => False

/-- What the client is told of an answer: the cells it asked for, or an exception. -/
def seen (q : Query) : AppResponse → AppResponse
  | .bits err out =>
      if err ≠ .none then .bits (callbackException err) fun _ => 0
      else .bits .none fun j => if j < (q.word.toNat + 7) / 8 then out j else 0
  | .registers err out =>
      if err ≠ .none then .registers (callbackException err) fun _ => 0
      else .registers .none fun j => if j < q.word.toNat then out j else 0
  | .written err => .written (if err ≠ .none then callbackException err else .none)

theorem Valid.length_data {q : Query} (h : q.Valid) {r : AppResponse} (hr : q.Expects r) :
    0 < (q.data r).length ∧ (q.data r).length ≤ 251 := by
  cases q with
  | readDiscreteInputs address quantity =>
      cases r with
      | bits err out =>
          have hle : quantity.toNat ≤ 2000 := h.2.1
          simp only [data, word, List.length_cons, length_cellBytes]
          omega
      | registers | written => exact hr.elim
  | readHoldingRegisters address quantity | readInputRegisters address quantity =>
      cases r with
      | registers err out =>
          have hle : quantity.toNat ≤ 125 := h.2.1
          simp only [data, word, registersData, List.length_cons, length_registerBytes]
          omega
      | bits | written => exact hr.elim
  | writeSingleRegister | writeMultipleRegisters =>
      cases r with
      | written err => exact ⟨Nat.succ_pos _, Nat.le_of_ble_eq_true rfl⟩
      | bits | registers => exact hr.elim

end Query

def Call.answerMessage (c : Call) {r : AppResponse} (hr : c.query.Expects r) : Message where
  transactionId := c.transactionId
  unitId := c.unitId
  fc := if r.error ≠ .none then c.query.fc + 0x80 else c.query.fc
  body :=
    if r.error ≠ .none then [UInt8.ofNat (callbackException r.error).code.toNat]
    else c.query.data r
  body_pos := by
    split_ifs
    · exact Nat.one_pos
    · exact (c.valid.length_data hr).1
  body_le := by
    split_ifs
    · exact Nat.le_of_ble_eq_true rfl
    · exact (c.valid.length_data hr).2.trans (Nat.le_succ 251)

section Answer

variable (c : Call) {r : AppResponse} (hr : c.query.Expects r)

theorem Call.answerMessage_of_error (herr : r.error ≠ .none) :
    (c.answerMessage hr).fc.toNat = c.query.fc.toNat + 0x80 ∧
      (c.answerMessage hr).body = [UInt8.ofNat (callbackException r.error).code.toNat] := by
  dsimp only [answerMessage]
  rw [if_pos herr, if_pos herr]
  refine ⟨?_, rfl⟩
  cases c.query <;> rfl

theorem Call.answerMessage_of_none (herr : ¬ r.error ≠ .none) :
    (c.answerMessage hr).fc = c.query.fc ∧ (c.answerMessage hr).body = c.query.data r := by
  dsimp only [answerMessage]
  rw [if_neg herr, if_neg herr]
  exact ⟨rfl, rfl⟩

theorem Call.answerMessage_bytes : (c.answerMessage hr).bytes = c.encode r := by
  rw [Message.bytes, answerMessage, encode]
  split_ifs <;> rfl

end Answer

/-! ## Reading the data back -/

theorem getD_cellBytes (cells : Cells UInt8) (i : Nat) {j count : Nat} (hj : j < count) :
    (cellBytes cells i count).getD j 0 = cells (i + j) := by
  induction count generalizing i j with
  | zero => exact absurd hj (Nat.not_lt_zero _)
  | succ count ih =>
      cases j with
      | zero => rfl
      | succ j =>
          have hindex : i + 1 + j = i + (j + 1) := by omega
          rw [cellBytes, List.getD_cons_succ, ih (i + 1) (Nat.lt_of_succ_lt_succ hj), hindex]

theorem word_registerBytes (cells : Cells UInt16) (i : Nat) {j count : Nat} (hj : j < count) :
    word ((registerBytes cells i count).getD (2 * j) 0)
        ((registerBytes cells i count).getD (2 * j + 1) 0) = cells (i + j) := by
  induction count generalizing i j with
  | zero => exact absurd hj (Nat.not_lt_zero _)
  | succ count ih =>
      cases j with
      | zero => exact word_wordBytes _
      | succ j =>
          have hindex : i + 1 + j = i + (j + 1) := by omega
          have hrest := ih (i + 1) (Nat.lt_of_succ_lt_succ hj)
          rw [hindex] at hrest
          exact hrest

theorem registerBytes_getD (values : List UInt16) :
    registerBytes (fun i => values.getD i 0) 0 values.length = values.flatMap wordBytes := by
  have hshift : ∀ (cells : Cells UInt16) (i count : Nat),
      registerBytes cells (i + 1) count = registerBytes (fun j => cells (j + 1)) i count := by
    intro cells i count
    induction count generalizing i with
    | zero => rfl
    | succ count ih => rw [registerBytes, registerBytes, ih]
  induction values with
  | nil => rfl
  | cons value values ih =>
      rw [List.length_cons, registerBytes, hshift, List.flatMap_cons]
      exact congrArg (wordBytes value ++ ·) ih

theorem exception_code (err : NmbsError) :
    (1 ≤ UInt8.ofNat (callbackException err).code.toNat ∧
        UInt8.ofNat (callbackException err).code.toNat ≤ 4) ∧
      NmbsError.ofException (UInt8.ofNat (callbackException err).code.toNat) =
        callbackException err := by
  cases err <;> decide

/-! ## A client and its server -/

/-- The answers arrive one after another, each of them some time after its request and
before the timeouts are over. -/
inductive Replying (first limit : Option Nat) : List (Nat × UInt8) → List (List UInt8) → Prop
  | nil (arrivals : List (Nat × UInt8)) : Replying first limit arrivals []
  | cons {gap : Nat} {byte : UInt8} {arrivals rest : List (Nat × UInt8)} {bytes : List UInt8}
      {answers : List (List UInt8)} (hlater : 0 < gap) (hfirst : Within first gap)
      (hbytes : byte :: arrivals.map Prod.snd = bytes)
      (hheader : Within limit ((arrivals.take 7).map Prod.fst).sum)
      (hbody : Within limit ((arrivals.drop 7).map Prod.fst).sum)
      (hrest : Replying first limit rest answers) :
      Replying first limit ((gap, byte) :: arrivals ++ rest) (bytes :: answers)

/-- The client can send at once, and the answers to its calls will arrive. -/
structure Calling (st : Nmbs ClientFields) (answers : List (List UInt8)) : Prop where
  readTimeout_nonneg : 0 ≤ st.readTimeoutMs
  byteTimeout_nonneg : 0 ≤ st.byteTimeoutMs
  sends : ∀ i, st.conn.sends i = some ⟨.success, 0⟩
  replying : Replying (Conn.limitOf st.readTimeoutMs.toNat) (Conn.limitOf st.byteTimeoutMs.toNat)
    st.conn.incoming.arrivals answers

def ClientFields.call (fields : ClientFields) {q : Query} (hq : q.Valid) : Call where
  transactionId := fields.next.currentTid
  unitId := fields.next.destAddressRtu
  query := q
  valid := hq

structure Called (st : Nmbs ClientFields) (answers : List (List UInt8)) (bytes : List UInt8)
    (st' : Nmbs ClientFields) : Prop where
  calling : Calling st' answers
  arg_eq : st'.arg = st.arg.next
  written_eq : st'.conn.written = bytes :: st.conn.written

section Call

variable {st : Nmbs ClientFields} {m : Message} {answers : List (List UInt8)}

theorem Calling.of_cons (h : Calling st (m.bytes :: answers)) :
    ¬ st.conn.incoming.ArrivesWithin (some 0) 1 ∧ ∃ rest, Hears st m rest ∧
      Replying (Conn.limitOf st.readTimeoutMs.toNat) (Conn.limitOf st.byteTimeoutMs.toNat)
        rest answers := by
  have hreplying := h.replying
  generalize hall : st.conn.incoming.arrivals = all at hreplying
  cases hreplying with
  | @cons gap byte arrivals rest _ _ hlater hfirst hbytes hheader hbody hrest =>
      have htime : st.conn.incoming.time 1 = gap := by
        rw [TimedStream.time, hall]
        exact Nat.add_zero gap
      have hlength : 1 ≤ st.conn.incoming.arrivals.length := by
        rw [hall]
        exact Nat.succ_pos _
      refine ⟨fun hnow => ?_, rest, ⟨h.readTimeout_nonneg, h.byteTimeout_nonneg, ⟨hlength, ?_⟩,
        (gap, byte) :: arrivals, hall, hbytes, hheader, hbody⟩, hrest⟩
      · have hzero := hnow.2
        rw [htime, within_some] at hzero
        omega
      · rwa [htime]

theorem Requested.answered {fc : UInt8} {body : List UInt8} {err : NmbsError}
    {st₁ : Nmbs ClientFields} (h : Requested st fc body err st₁)
    (hcalling : Calling st (m.bytes :: answers)) :
    err = .none ∧ ∃ rest, Heard st₁ m rest ∧ ∀ n, Called st answers
      (frame st.arg.next.currentTid st.arg.next.destAddressRtu fc body)
      (st₁.gotMessage.seek n) := by
  obtain ⟨_, rest, hhears, hrest⟩ := hcalling.of_cons
  obtain ⟨o, ho, hconn⟩ := h.conn_eq
  obtain rfl := Option.some.inj (ho.symm.trans (hcalling.sends 0))
  have hsent : st.conn.Sends := (Conn.sends_iff ho).mpr rfl
  have hincoming : st₁.conn.incoming = st.conn.incoming := by
    rw [hconn]
    exact TimedStream.elapse_zero _
  have hheard : Heard st₁ m rest := by
    refine Hears.heard ⟨?_, ?_, ?_, ?_⟩
    · exact h.readTimeout_eq ▸ hhears.readTimeout_nonneg
    · exact h.byteTimeout_eq ▸ hhears.byteTimeout_nonneg
    · rw [hincoming, h.readTimeout_eq]
      exact hhears.first
    · rw [hincoming, h.byteTimeout_eq]
      exact hhears.message
  refine ⟨h.err_eq.trans (if_pos hsent), rest, hheard, fun n => ⟨⟨?_, ?_, ?_, ?_⟩,
    h.arg_eq, ?_⟩⟩
  · exact h.readTimeout_eq ▸ hcalling.readTimeout_nonneg
  · exact h.byteTimeout_eq ▸ hcalling.byteTimeout_nonneg
  · intro i
    show st₁.conn.sends i = _
    rw [hconn]
    exact hcalling.sends (i + 1)
  · show Replying (Conn.limitOf st₁.readTimeoutMs.toNat) (Conn.limitOf st₁.byteTimeoutMs.toNat)
      st₁.gotMessage.conn.incoming.arrivals answers
    rwa [hheard.arrivals_eq, h.readTimeout_eq, h.byteTimeout_eq]
  · show st₁.conn.written = _
    rw [hconn, written_sent ho, if_pos hsent]
    rfl

theorem Calling.not_sendBlocks (h : Calling st answers) : ¬ st.conn.SendBlocks := by
  intro hblocks
  exact absurd ((h.sends 0).symm.trans hblocks) (Option.some_ne_none _)

theorem Calling.quiet {q : Query} (hq : q.Valid) {r : AppResponse} (hr : q.Expects r)
    (h : Calling st ((st.arg.call hq).encode r :: answers)) :
    ¬ st.conn.incoming.ArrivesWithin (some 0) 1 := by
  rw [← (st.arg.call hq).answerMessage_bytes hr] at h
  exact h.of_cons.1

section Kinds

variable {flush : ClientM Unit} (hflush : FlushesQueued flush) {q : Query} (hq : q.Valid)
include hflush

theorem wp_readDiscrete_called {address quantity : UInt16} {err : NmbsError} {out : Cells UInt8}
    (hr : q.Expects (.bits err out)) (hbody : q.body = wordBytes address ++ wordBytes quantity)
    (hword : q.word = quantity)
    (hvalid : 1 ≤ quantity ∧ quantity ≤ 2000 ∧ InRange address quantity)
    (hcalling : Calling st ((st.arg.call hq).encode (.bits err out) :: answers)) :
    Wp (fun _ => False) (do
      let (err, inputs) ← readDiscrete flush q.fc address quantity fun _ => 0
      return AppResponse.bits err inputs) (fun seen st' => seen = q.seen (.bits err out) ∧
        Called st answers (st.arg.call hq).message.bytes st') st := by
  have hquiet := hcalling.quiet hq hr
  rw [← (st.arg.call hq).answerMessage_bytes hr] at hcalling
  have hle : quantity.toNat ≤ 2000 := hvalid.2.1
  rw [wp_bind, readDiscrete, if_neg (quantity_iff.mpr ⟨hvalid.1, hvalid.2.1⟩),
    if_neg (inRange_iff.mpr hvalid.2.2), wp_bind]
  apply wp_mono (wp_sendRequest hflush hquiet hcalling.not_sendBlocks address quantity)
  intro err₁ st₁ hrequested
  rw [← hbody] at hrequested
  obtain ⟨rfl, rest, hheard, hcalled⟩ := hrequested.answered hcalling
  rw [if_neg (by decide)]
  by_cases herr : err ≠ .none
  · obtain ⟨hfc, hdata⟩ := (st.arg.call hq).answerMessage_of_error hr herr
    obtain ⟨hexception, hsame⟩ := exception_code err
    rw [wp_recvReadDiscreteRes_exception hheard hrequested.transactionId_eq
      (hrequested.fc_eq ▸ hfc) hdata hexception, wp_pure, Query.seen, if_pos herr]
    exact ⟨congrArg (AppResponse.bits · _) hsame, hcalled 9⟩
  · obtain ⟨hfc, hdata⟩ := (st.arg.call hq).answerMessage_of_none hr herr
    have hbytes : (quantity.toNat + 7) / 8 ≤ 250 := by omega
    have hcells : ∀ i < 1 + (quantity.toNat + 7) / 8, st₁.gotMessage.msg.buf (8 + i) =
        (UInt8.ofNat ((quantity.toNat + 7) / 8) ::
          cellBytes out 0 ((quantity.toNat + 7) / 8)).getD i 0 := by
      intro i hi
      have hdata' : ((st.arg.call hq).answerMessage hr).body = UInt8.ofNat
          ((quantity.toNat + 7) / 8) :: cellBytes out 0 ((quantity.toNat + 7) / 8) := by
        rw [hdata, ← hword]
        rfl
      rw [← hdata']
      exact hheard.cells i (by rw [hdata', List.length_cons, length_cellBytes]; omega)
    rw [wp_recvReadDiscreteRes_heard hheard hrequested.transactionId_eq
      (hrequested.fc_eq.trans hfc.symm) hbytes (hcells 0 (by omega)), wp_pure, Query.seen,
      if_neg herr, hword]
    refine ⟨congrArg (AppResponse.bits .none) ?_, hcalled _⟩
    funext j
    split_ifs with hj
    · have hcell := hcells (1 + j) (by omega)
      rw [← Nat.add_assoc] at hcell
      rw [hcell, Nat.add_comm 1 j, List.getD_cons_succ, getD_cellBytes out 0 hj, Nat.zero_add]
    · rfl

theorem wp_readRegisters_called {address quantity : UInt16} {err : NmbsError}
    {out : Cells UInt16} (hr : q.Expects (.registers err out))
    (hbody : q.body = wordBytes address ++ wordBytes quantity) (hword : q.word = quantity)
    (hvalid : 1 ≤ quantity ∧ quantity ≤ 125 ∧ InRange address quantity)
    (hcalling : Calling st ((st.arg.call hq).encode (.registers err out) :: answers)) :
    Wp (fun _ => False) (do
      let (err, registers) ← readRegisters flush q.fc address quantity fun _ => 0
      return AppResponse.registers err registers) (fun seen st' =>
        seen = q.seen (.registers err out) ∧
          Called st answers (st.arg.call hq).message.bytes st') st := by
  have hquiet := hcalling.quiet hq hr
  rw [← (st.arg.call hq).answerMessage_bytes hr] at hcalling
  have hle : quantity.toNat ≤ 125 := hvalid.2.1
  rw [wp_bind, readRegisters, if_neg (quantity_iff.mpr ⟨hvalid.1, hvalid.2.1⟩),
    if_neg (inRange_iff.mpr hvalid.2.2), wp_bind]
  apply wp_mono (wp_sendRequest hflush hquiet hcalling.not_sendBlocks address quantity)
  intro err₁ st₁ hrequested
  rw [← hbody] at hrequested
  obtain ⟨rfl, rest, hheard, hcalled⟩ := hrequested.answered hcalling
  rw [if_neg (by decide)]
  by_cases herr : err ≠ .none
  · obtain ⟨hfc, hdata⟩ := (st.arg.call hq).answerMessage_of_error hr herr
    obtain ⟨hexception, hsame⟩ := exception_code err
    rw [wp_recvReadRegistersRes_exception hheard hrequested.transactionId_eq
      (hrequested.fc_eq ▸ hfc) hdata hexception, wp_pure, Query.seen, if_pos herr]
    exact ⟨congrArg (AppResponse.registers · _) hsame, hcalled 9⟩
  · obtain ⟨hfc, hdata⟩ := (st.arg.call hq).answerMessage_of_none hr herr
    have hcells : ∀ i < 1 + 2 * quantity.toNat, st₁.gotMessage.msg.buf (8 + i) =
        (registersData quantity out).getD i 0 := by
      intro i hi
      have hdata' : ((st.arg.call hq).answerMessage hr).body = registersData quantity out := by
        rw [hdata, ← hword]
        rfl
      rw [← hdata']
      refine hheard.cells i ?_
      rw [hdata', registersData, List.length_cons, length_registerBytes]
      omega
    rw [wp_recvReadRegistersRes_heard hheard hrequested.transactionId_eq
      (hrequested.fc_eq.trans hfc.symm) hvalid.2.1 (hcells 0 (by omega)), wp_pure, Query.seen,
      if_neg herr, hword]
    refine ⟨congrArg (AppResponse.registers .none) ?_, hcalled _⟩
    funext j
    split_ifs with hj
    · have hhi := hcells (2 * j + 1) (by omega)
      have hlo := hcells (2 * j + 1 + 1) (by omega)
      have hindex : 8 + (2 * j + 1) = 9 + 2 * j := by omega
      have hindex' : 8 + (2 * j + 1 + 1) = 9 + 2 * j + 1 := by omega
      rw [hindex, registersData, List.getD_cons_succ] at hhi
      rw [hindex', registersData, List.getD_cons_succ] at hlo
      rw [wordAt, hhi, hlo, word_registerBytes out 0 hj, Nat.zero_add]
    · rfl

omit hflush in
theorem wp_recvWriteRes_called {err : NmbsError} (hr : q.Expects (.written err))
    (hcalling : Calling st ((st.arg.call hq).encode (.written err) :: answers))
    {st₁ : Nmbs ClientFields} {err₁ : NmbsError} (hrequested : Requested st q.fc q.body err₁ st₁) :
    err₁ = .none ∧ Wp (fun _ => False) (recvWriteRes q.address q.word) (fun seen st' =>
      AppResponse.written seen = q.seen (.written err) ∧
        Called st answers (st.arg.call hq).message.bytes st') st₁ := by
  rw [← (st.arg.call hq).answerMessage_bytes hr] at hcalling
  obtain ⟨herr₁, rest, hheard, hcalled⟩ := hrequested.answered hcalling
  refine ⟨herr₁, ?_⟩
  by_cases herr : err ≠ .none
  · obtain ⟨hfc, hdata⟩ := (st.arg.call hq).answerMessage_of_error hr herr
    obtain ⟨hexception, hsame⟩ := exception_code err
    rw [wp_recvWriteRes_exception hheard hrequested.transactionId_eq
      (hrequested.fc_eq ▸ hfc) hdata hexception, Query.seen, if_pos herr]
    exact ⟨congrArg AppResponse.written hsame, hcalled 9⟩
  · obtain ⟨hfc, hdata⟩ := (st.arg.call hq).answerMessage_of_none hr herr
    have hcells : ∀ i < 4, st₁.gotMessage.msg.buf (8 + i) =
        (wordBytes q.address ++ wordBytes q.word).getD i 0 := by
      intro i hi
      have hdata' : ((st.arg.call hq).answerMessage hr).body =
          wordBytes q.address ++ wordBytes q.word := hdata
      rw [← hdata']
      exact hheard.cells i (by rw [hdata']; exact hi)
    have haddress : st₁.gotMessage.wordAt 8 = q.address := by
      rw [wordAt, hcells 0 (by decide), hcells 1 (by decide)]
      exact word_wordBytes _
    have hword : st₁.gotMessage.wordAt 10 = q.word := by
      rw [wordAt, hcells 2 (by decide), hcells 3 (by decide)]
      exact word_wordBytes _
    rw [wp_recvWriteRes_heard hheard hrequested.transactionId_eq
      (hrequested.fc_eq.trans hfc.symm) haddress hword, Query.seen, if_neg herr]
    exact ⟨rfl, hcalled 12⟩

theorem wp_writeSingleRegister_called {address value : UInt16} {err : NmbsError}
    (hcalling : Calling st ((st.arg.call (q := .writeSingleRegister address value) trivial).encode
      (.written err) :: answers)) :
    Wp (fun _ => False) (do
      let err ← nmbsWriteSingleRegister flush address value
      return AppResponse.written err) (fun seen st' =>
        seen = (Query.writeSingleRegister address value).seen (.written err) ∧
          Called st answers (st.arg.call (q := .writeSingleRegister address value)
            trivial).message.bytes st') st := by
  have hquiet := Calling.quiet (q := .writeSingleRegister address value) trivial
    (r := .written err) trivial hcalling
  rw [wp_bind, nmbsWriteSingleRegister, wp_bind]
  apply wp_mono (wp_sendRequest hflush hquiet hcalling.not_sendBlocks address value)
  intro err₁ st₁ hrequested
  have hbody : (Query.writeSingleRegister address value).body =
      wordBytes address ++ wordBytes value := List.append_nil _
  rw [← hbody] at hrequested
  obtain ⟨rfl, hcalled⟩ := wp_recvWriteRes_called (q := .writeSingleRegister address value) trivial
    trivial hcalling hrequested
  rw [if_neg (by decide)]
  exact hcalled

theorem wp_writeMultipleRegisters_called {address : UInt16} {values : List UInt16}
    (hq : (Query.writeMultipleRegisters address values).Valid) {err : NmbsError}
    (hcalling : Calling st ((st.arg.call hq).encode (.written err) :: answers)) :
    Wp (fun _ => False) (do
      let err ← nmbsWriteMultipleRegisters flush address (UInt16.ofNat values.length)
        fun i => values.getD i 0
      return AppResponse.written err) (fun seen st' =>
        seen = (Query.writeMultipleRegisters address values).seen (.written err) ∧
          Called st answers (st.arg.call hq).message.bytes st') st := by
  have hquiet := Calling.quiet hq (r := .written err) trivial hcalling
  obtain ⟨hpos, hle, hrange⟩ := id hq
  have hquantity : (UInt16.ofNat values.length).toNat = values.length := by
    rw [UInt16.toNat_ofNat']
    omega
  have hcount : 1 ≤ UInt16.ofNat values.length ∧ UInt16.ofNat values.length ≤ 0x007B := by
    rw [UInt16.le_iff_toNat_le, UInt16.le_iff_toNat_le, hquantity]
    exact ⟨hpos, hle⟩
  have hinRange : InRange address (UInt16.ofNat values.length) := by
    rw [InRange, hquantity]
    exact hrange
  have hbody : (Query.writeMultipleRegisters address values).body =
      wordBytes address ++ wordBytes (UInt16.ofNat values.length) ++
        (UInt8.ofNat (values.length * 2) ::
          registerBytes (fun i => values.getD i 0) 0 values.length) := by
    rw [registerBytes_getD, Nat.mul_comm]
    rfl
  have hlength : (Query.writeMultipleRegisters address values).body.length =
      5 + values.length * 2 := by
    rw [hbody]
    simp only [List.length_append, length_wordBytes, List.length_cons, length_registerBytes]
    omega
  have hheader : 5 + (UInt8.ofNat (values.length * 2)).toUInt16 =
      UInt16.ofNat (Query.writeMultipleRegisters address values).body.length := by
    apply UInt16.toNat.inj
    rw [hlength, UInt16.toNat_add, UInt8.toNat_toUInt16, UInt8.toNat_ofNat', UInt16.toNat_ofNat']
    show (5 + _) % 65536 = _
    omega
  rw [wp_bind, nmbsWriteMultipleRegisters, if_neg (quantity_iff.mpr hcount),
    if_neg (inRange_iff.mpr hinRange), wp_bind]
  apply wp_msgStateReq hflush hquiet
  intro buf
  rw [wp_bind, hquantity, hheader]
  apply wp_mono (wp_putMsgHeader_requesting _)
  intro _ st₁ h₁
  rw [wp_bind]
  apply wp_mono (wp_put2_assembled h₁ (Nat.le_of_ble_eq_true rfl) _)
  intro _ st₂ h₂
  rw [wp_bind]
  apply wp_mono (wp_put2_assembled h₂ (Nat.le_of_ble_eq_true rfl) _)
  intro _ st₃ h₃
  rw [wp_bind]
  apply wp_mono (wp_put1_assembled h₃ (Nat.le_of_ble_eq_true rfl) _)
  intro _ st₄ h₄
  rw [wp_bind]
  apply wp_mono (wp_putRegisters_assembled _ 0 values.length h₄ ?_)
  · intro _ st₅ h₅
    rw [wp_bind]
    have hfit : 8 + (Query.writeMultipleRegisters address values).body.length ≤ msgBufSize := by
      rw [hlength, msgBufSize]
      omega
    have hframe : Assembled (st.requesting 16 buf) (frame st.arg.next.currentTid
        st.arg.next.destAddressRtu 16 (Query.writeMultipleRegisters address values).body) st₅ := by
      rw [frame, hbody]
      rw [hbody] at h₅
      simpa only [List.append_assoc, List.singleton_append] using h₅
    apply wp_mono (wp_sendMsg_requested hframe hfit hcalling.not_sendBlocks)
    intro err₁ st₆ hrequested
    obtain ⟨rfl, hcalled⟩ := wp_recvWriteRes_called hq trivial hcalling hrequested
    rw [if_neg (by decide)]
    exact hcalled
  · simp only [List.length_append, length_mbapHeader, length_wordBytes, List.length_singleton,
      msgBufSize]
    omega

/-- A call sends the message of its query, and returns what the application has answered. -/
theorem wp_call (hq : q.Valid) {r : AppResponse} (hr : q.Expects r)
    (hcalling : Calling st ((st.arg.call hq).encode r :: answers)) :
    Wp (fun _ => False) (q.call flush) (fun seen st' =>
      seen = q.seen r ∧ Called st answers (st.arg.call hq).message.bytes st') st := by
  cases q with
  | readDiscreteInputs address quantity =>
      cases r with
      | bits err out =>
          exact wp_readDiscrete_called hflush hq hr (List.append_nil _) rfl hq hcalling
      | registers | written => exact hr.elim
  | readHoldingRegisters address quantity | readInputRegisters address quantity =>
      cases r with
      | registers err out =>
          exact wp_readRegisters_called hflush hq hr (List.append_nil _) rfl hq hcalling
      | bits | written => exact hr.elim
  | writeSingleRegister address value =>
      cases r with
      | written err => exact wp_writeSingleRegister_called hflush hcalling
      | bits | registers => exact hr.elim
  | writeMultipleRegisters address values =>
      cases r with
      | written err => exact wp_writeMultipleRegisters_called hflush hq hcalling
      | bits | registers => exact hr.elim

end Kinds

end Call

end DriveSim
