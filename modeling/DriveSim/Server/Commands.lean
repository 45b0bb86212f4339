import DriveSim.Server.Ledger

/-!
# What the clients have commanded

A message asks the application for at most one write, which its bytes spell if it is long
enough; the words that it lacks are those the buffer still holds.  The writes of all
messages, in the order in which they came in over all connections, are a history of the two
registers, and the drive holds what that history says.
-/

namespace DriveSim

open Lib Program Nmbs

/-! ## The write in a message -/

namespace Nmbs

variable {σ : Type*} (st : Nmbs σ)

/-- The write a message with function code `fc` asks for, if the library passes it on. -/
def writeFor (fc : Nat) : Option AppRequest :=
  match fc with
  | 6 => some (.writeSingleRegister (st.wordAt 8) (st.wordAt 10))
  | 16 =>
      if (1 ≤ st.wordAt 10 ∧ st.wordAt 10 ≤ 0x007B) ∧ InRange (st.wordAt 8) (st.wordAt 10) ∧
          (st.msg.buf 12).toNat = (st.wordAt 10).toNat * 2 then
        some (.writeMultipleRegisters (st.wordAt 8) (st.wordAt 10)
          (st.wordsAt 13 (st.wordAt 10).toNat))
      else none
  | 23 =>
      if st.msg.buf 16 ≤ 242 ∧ st.ReadWriteValid then
        some (.writeMultipleRegisters (st.wordAt 12) (st.wordAt 14)
          (st.wordsAt 17 (st.wordAt 14).toNat))
      else none
  | _ => none

def write? : Option AppRequest := st.writeFor st.msg.fc.toNat

def fieldsEnd (fc : Nat) : Nat :=
  match fc with
  | 6 => 12
  | 16 => 13 + 2 * (st.wordAt 10).toNat
  | 23 => 17 + 2 * (st.wordAt 14).toNat
  | _ => 0

theorem writeFor_congr {st st' : Nmbs σ} {fc : Nat}
    (h : ∀ i < st.fieldsEnd fc, st.msg.buf i = st'.msg.buf i) :
    st.writeFor fc = st'.writeFor fc := by
  have hword : ∀ i, i + 1 < st.fieldsEnd fc → st.wordAt i = st'.wordAt i := by
    intro i hi
    rw [wordAt, wordAt, h i (by omega), h (i + 1) hi]
  have hwords : ∀ start count, start + 2 * count ≤ st.fieldsEnd fc →
      st.wordsAt start count = st'.wordsAt start count := by
    intro start count hend
    funext i
    unfold wordsAt
    split_ifs with hi
    · exact hword _ (by omega)
    · rfl
  unfold writeFor
  split
  · simp only [fieldsEnd] at hword
    rw [hword 8 (by omega), hword 10 (by omega)]
  · simp only [fieldsEnd] at h hword hwords
    rw [h 12 (by omega), hwords 13 _ le_rfl, hword 8 (by omega), hword 10 (by omega)]
  · simp only [fieldsEnd] at h hword hwords
    have hvalid : st.ReadWriteValid ↔ st'.ReadWriteValid := by
      unfold ReadWriteValid
      rw [h 16 (by omega), hword 8 (by omega), hword 10 (by omega), hword 12 (by omega),
        hword 14 (by omega)]
    rw [hwords 17 _ le_rfl]
    simp only [h 16 (by omega), hvalid, hword 12 (by omega), hword 14 (by omega)]
  · rfl

theorem snd_checkedReply {limit : UInt16} {reply : Reply × σ} (h : reply.2 = st.arg) :
    (st.checkedReply limit reply).2 = st.arg := by
  rw [checkedReply]
  split_ifs
  · rfl
  · rfl
  · exact h

theorem snd_readFileRecordReply : st.readFileRecordReply.2 = st.arg := by
  rw [readFileRecordReply]
  split_ifs <;> rfl

theorem snd_writeFileRecordReply : st.writeFileRecordReply.2 = st.arg := by
  rw [writeFileRecordReply]
  split_ifs
  · rfl
  · rfl
  · cases st.scanSubrequests msgBufSize 9 (st.msg.buf 8).toUInt16 with
    | none => rfl
    | some size =>
        dsimp only
        split_ifs <;> rfl

theorem snd_writeMultipleCoilsReply (hnone : st.callbacks.writeMultipleCoils = none) :
    st.writeMultipleCoilsReply.2 = st.arg := by
  rw [writeMultipleCoilsReply, hnone]
  by_cases hbytes : 246 < st.msg.buf 12
  · rw [if_pos hbytes]
  · rw [if_neg hbytes]
    apply snd_checkedReply
    split_ifs <;> rfl

end Nmbs

namespace Exchange

variable {σ : Type*} (e : Exchange σ)

/-- The client has sent all fields of the message. -/
def Whole : Prop := e.request.fieldsEnd e.request.msg.fc.toNat ≤ e.bytes.length

/-- The write that the bytes of the client spell in an empty buffer. -/
def spelled : Option AppRequest := (e.request.setBuf (storeAt (fun _ => 0) 0 e.bytes)).write?

/-- What a whole message writes is what its client has sent. -/
theorem write?_eq_spelled (h : e.Whole) : e.request.write? = e.spelled := by
  apply writeFor_congr
  intro i hi
  have hlength : i < 8 + e.body.length := by
    rw [Whole, bytes, length_frame] at h
    omega
  have hcell := congrArg (·[i]?) e.stored
  have hstored : 0 ≤ i ∧ i < 0 + e.bytes.length := by
    rw [bytes, length_frame]
    omega
  show e.request.msg.buf i = storeAt (fun _ => 0) 0 e.bytes i
  rw [storeAt, if_pos hstored, Nat.sub_zero, bytes, List.getD_eq_getElem?_getD, ← hcell]
  simp [messageBytes, hlength]

end Exchange

def writesOf {σ : Type*} (sessions : List (List (Exchange σ))) : List AppRequest :=
  sessions.flatten.filterMap (·.request.write?)

theorem writesOf_cons {σ : Type*} (es : List (Exchange σ)) (sessions : List (List (Exchange σ))) :
    writesOf (es :: sessions) = es.filterMap (·.request.write?) ++ writesOf sessions := by
  rw [writesOf, List.flatten_cons, List.filterMap_append]
  rfl

/-! ## Servers that cannot be told apart take the same writes -/

section Alike

variable {σ τ : Type*} {R : σ → τ → Prop}

theorem write_ledgerEntry_eq {s : Nmbs σ} {t : Nmbs τ} (h : Paired R s t) :
    s.ledgerEntry.bind (·.request.write?) = t.ledgerEntry.bind (·.request.write?) := by
  obtain ⟨msg, byteTimeoutMs, readTimeoutMs, callbacks, arg, conn⟩ := s
  obtain ⟨msg', byteTimeoutMs', readTimeoutMs', callbacks', arg', conn'⟩ := t
  obtain ⟨hmsg, hbyte, hread, hconn, _, _⟩ := h
  simp only at hmsg hbyte hread hconn
  subst hmsg hbyte hread hconn
  have hsame : Nmbs.Arrives ⟨msg, byteTimeoutMs, readTimeoutMs, callbacks, arg, conn⟩ ↔
      Nmbs.Arrives ⟨msg, byteTimeoutMs, readTimeoutMs, callbacks', arg', conn⟩ :=
    ⟨fun h => ⟨h.header, h.length, h.body, h.protocolId_eq⟩,
      fun h => ⟨h.header, h.length, h.body, h.protocolId_eq⟩⟩
  by_cases harrives : Nmbs.Arrives ⟨msg, byteTimeoutMs, readTimeoutMs, callbacks, arg, conn⟩
  · rw [ledgerEntry_of_arrives harrives, ledgerEntry_of_arrives (hsame.mp harrives)]
    rfl
  · rw [ledgerEntry_of_missing harrives, ledgerEntry_of_missing (hsame.not.mp harrives)]
    rfl

theorem writesInSession_eq {s : Nmbs σ} {t : Nmbs τ} (h : Paired R s t) (fuel : Nat) :
    (entriesInSession fuel s).filterMap (·.request.write?) =
      (entriesInSession fuel t).filterMap (·.request.write?) := by
  simp only [entriesInSession, List.filterMap_filterMap]
  induction fuel generalizing s t with
  | zero => rfl
  | succ fuel ih =>
      have hhead := write_ledgerEntry_eq h
      rw [polls, polls]
      have halike := inStep_sessionRound s t h
      generalize sessionRound s = x, sessionRound t = y at halike
      cases halike with
      | halted halt => rfl
      | returned r h' =>
          cases r with
          | none => simp only [List.filterMap_cons, hhead, ih h']
          | some err => simp only [List.filterMap_cons, hhead, List.filterMap_nil]

theorem writesOf_entries_eq (config : ModbusTcpConfig) {f : NmbsCallbacks σ}
    {g : NmbsCallbacks τ} (hagree : CallbacksAgree R f g) {s : σ} {t : τ} (h : R s t)
    (accepts : List Accept) (fuel : Nat) :
    writesOf (entriesOfRun fuel config f accepts s) =
      writesOf (entriesOfRun fuel config g accepts t) := by
  induction accepts generalizing s t with
  | nil => rfl
  | cons accept accepts ih =>
      have halike := runModbusSession_alike config hagree h accept.conn fuel
      rw [entriesOfRun, entriesOfRun]
      by_cases hrefused : accept.result ≠ .success
      · rw [if_pos hrefused, if_pos hrefused]
        rfl
      · rw [if_neg hrefused, if_neg hrefused, writesOf_cons, writesOf_cons,
          writesInSession_eq (paired_sessionStart config hagree h accept.conn)]
        congr 1
        generalize runModbusSession fuel config f s accept.conn = x,
          runModbusSession fuel config g t accept.conn = y at halike
        cases halike with
        | halted halt => rfl
        | returned err h' =>
            cases err <;> first | rfl | (dsimp only; split_ifs <;> first | rfl | exact ih h')

end Alike

section Registers

variable {K : Type*} [Field K] [LinearOrder K] [FloorRing K]

def Registers.afterWrite (limit : K) (table : Cells UInt16) (r : Registers K) :
    Option AppRequest → Registers K
  | none => r
  | some q => (r.answer limit table q).2

variable {limit : K} {table : Cells UInt16} {st : Nmbs (Registers K)}
  (h : st.callbacks = Registers.callbacks limit table)
include h

theorem snd_writeMultipleRegistersReply :
    st.writeMultipleRegistersReply.2 = st.arg.afterWrite limit table (st.writeFor 16) := by
  rw [writeMultipleRegistersReply, h, writeFor]
  by_cases hvalid : (1 ≤ st.wordAt 10 ∧ st.wordAt 10 ≤ 0x007B) ∧
      InRange (st.wordAt 8) (st.wordAt 10) ∧ (st.msg.buf 12).toNat = (st.wordAt 10).toNat * 2
  · obtain ⟨hquantity, hrange, hcount⟩ := hvalid
    have hpos : 1 ≤ (st.wordAt 10).toNat := hquantity.1
    have hle : (st.wordAt 10).toNat ≤ 123 := hquantity.2
    have hbytes : ¬ 246 < st.msg.buf 12 := by
      have hlimit : (246 : UInt8).toNat = 246 := rfl
      rw [UInt8.lt_iff_toNat_lt, hcount, hlimit]
      omega
    have hzero : st.msg.buf 12 ≠ 0 := by
      intro hzero
      rw [hzero] at hcount
      exact absurd hcount (by rw [UInt8.toNat_zero]; omega)
    have hhalf : (st.msg.buf 12).toNat / 2 = (st.wordAt 10).toNat := by omega
    rw [if_neg hbytes, checkedReply, if_neg (quantity_iff.mpr hquantity),
      if_neg (inRange_iff.mpr hrange), if_neg hzero, if_neg (not_not.mpr hcount), hhalf,
      if_pos ⟨hquantity, hrange, hcount⟩]
    rfl
  · rw [if_neg hvalid]
    by_cases hbytes : 246 < st.msg.buf 12
    · rw [if_pos hbytes]
      rfl
    · rw [if_neg hbytes, checkedReply]
      split_ifs with hquantity hrange hzero hcount
      · rfl
      · rfl
      · rfl
      · rfl
      · rw [quantity_iff] at hquantity
        rw [inRange_iff] at hrange
        exact absurd ⟨hquantity, hrange, not_not.mp hcount⟩ hvalid

theorem snd_readWriteReply :
    st.readWriteReply.2 = st.arg.afterWrite limit table (st.writeFor 23) := by
  rw [readWriteReply, h, writeFor]
  dsimp only
  by_cases hvalid : st.msg.buf 16 ≤ 242 ∧ st.ReadWriteValid
  · obtain ⟨hbytes, hread, hwrite, hcount, hrange, hrange'⟩ := id hvalid
    have hhalf : (st.msg.buf 16).toNat / 2 = (st.wordAt 14).toNat := by omega
    rw [if_neg (UInt8.not_lt.mpr hbytes), if_neg (quantity_iff.mpr hread),
      if_neg (quantity_iff.mpr hwrite), if_neg (not_not.mpr hcount),
      if_neg (inRange_iff.mpr hrange), if_neg (inRange_iff.mpr hrange'), if_pos hvalid, hhalf]
    dsimp only [Registers.callbacks]
    split_ifs
    · rfl
    · rfl
  · rw [if_neg hvalid]
    split_ifs with hbytes hread hwrite hcount hrange hrange'
    · rfl
    · rfl
    · rfl
    · rfl
    · rfl
    · rfl
    · rw [UInt8.not_lt] at hbytes
      rw [quantity_iff] at hread hwrite
      rw [inRange_iff] at hrange hrange'
      exact absurd ⟨hbytes, hread, hwrite, not_not.mp hcount, hrange, hrange'⟩ hvalid

theorem snd_reply : st.reply.2 = st.arg.afterWrite limit table st.write? := by
  rw [write?, reply]
  generalize st.msg.fc.toNat = fc
  unfold replyFor
  split
  case h_1 => exact snd_checkedReply st (by rw [h]; rfl)
  case h_2 => exact snd_checkedReply st (by rw [h]; rfl)
  case h_3 => exact snd_checkedReply st (by rw [h]; rfl)
  case h_4 => exact snd_checkedReply st (by rw [h]; rfl)
  case h_5 =>
    rw [writeSingleCoilReply, h]
    rfl
  case h_6 =>
    rw [writeSingleRegisterReply, h]
    rfl
  case h_7 =>
    exact snd_writeMultipleCoilsReply st (by rw [h]; rfl)
  case h_8 => exact snd_writeMultipleRegistersReply h
  case h_9 => exact snd_readFileRecordReply st
  case h_10 => exact snd_writeFileRecordReply st
  case h_11 => exact snd_readWriteReply h
  case h_12 h1 h2 h3 h4 h5 h6 h15 h16 h20 h21 h23 =>
    rw [writeFor]
    · rfl
    all_goals assumption

omit h in
/-- A ledger of the registers is a history of their machine. -/
theorem Ledger.registers_eq {r r' : Registers K} {es : List (Exchange (Registers K))}
    (h : Ledger (Registers.callbacks limit table) r es r') :
    r' = (Registers.machine limit table).run r (es.filterMap (·.request.write?)) := by
  induction h with
  | nil r => rfl
  | @cons e es r' hcallbacks _ ih =>
      rw [ih, snd_reply hcallbacks, List.filterMap_cons]
      cases e.request.write? with
      | none => rfl
      | some q => rfl

end Registers

/-! ## The running program -/

section Live

variable {K : Type*} [Field K] [LinearOrder K] [FloorRing K] [IsStrictOrderedRing K]
  (conv : Conversions K) {p : VehicleParams K}

/-- However its two threads take turns, the program serves the messages of its clients one
after another.  When it returns, the torque in force is the one commanded by the last write
that was within the limit, over all connections, and the failure flag tells whether the last
command of all was refused. -/
theorem wire_commands_in_force (hnonneg : 0 ≤ p.motorMaxTorqueNm)
    (hlt : p.motorMaxTorqueNm < 32768) (config : ModbusTcpConfig) (script : SocketScript)
    (torqueNm : K) (steps : Nat → Nat) (fuel : Nat) :
    let initial := clamp torqueNm (-p.motorMaxTorqueNm) p.motorMaxTorqueNm
    let sessions := entriesOfRun fuel config (liveCallbacks conv) script.clients
      ⟨appInit p torqueNm, steps⟩
    (∃ live, Accounted fuel config (liveCallbacks conv) script ⟨appInit p torqueNm, steps⟩ live) ∧
      (∀ e ∈ sessions.flatten, e.Whole → e.request.write? = e.spelled) ∧
      ∀ exit server, modbusTcpRun fuel config (liveCallbacks conv) script
        ⟨⟨appInit p torqueNm, steps⟩, []⟩ = .ok (exit, server) →
          Holds p server.userData.data
            ⟨torqueAfter p.motorMaxTorqueNm initial (writesOf sessions),
              failureAfter p.motorMaxTorqueNm (writesOf sessions)⟩ := by
  intro initial sessions
  refine ⟨exists_accounted _ _ _ _ _, fun e _ hwhole => e.write?_eq_spelled hwhole,
    fun exit server hrun => ?_⟩
  have hagree := agree_registers conv hnonneg hlt
  have hinitial : Holds p (appInit p torqueNm) ⟨initial, false⟩ := Holds.initial hnonneg torqueNm
  obtain ⟨registers, haccounted⟩ := exists_accounted fuel config
    (Registers.callbacks p.motorMaxTorqueNm (inputTable conv p)) script ⟨initial, false⟩
  obtain ⟨server', hrun', hsame⟩ :=
    (inStep_modbusTcpRun config hagree script fuel).returned
      (t := ⟨⟨initial, false⟩, []⟩) ⟨rfl, hinitial⟩ hrun
  have hwrites : writesOf sessions = writesOf (entriesOfRun fuel config
      (Registers.callbacks p.motorMaxTorqueNm (inputTable conv p)) script.clients
      ⟨initial, false⟩) :=
    writesOf_entries_eq config hagree hinitial script.clients fuel
  rw [hwrites, ← Registers.run_eq_after, writesOf,
    ← haccounted.served.ledger.registers_eq, ← haccounted.left _ _ hrun']
  exact hsame.userData

/-- A torque command in two pieces, and a client that leaves within a header. -/
theorem wire_commands_in_force_main :
    ∃ exit server, modbusTcpRun 6 modbusTcpConfigInit (liveCallbacks Conversions.wrapping)
        friendlyScript ⟨⟨appInit (mainParams : VehicleParams ℚ) 0, fun i => 50 * i + 7⟩, []⟩ =
          .ok (exit, server) ∧
      Holds mainParams server.userData.data ⟨100, false⟩ := by
  have hexit : (modbusTcpRun 6 modbusTcpConfigInit (liveCallbacks Conversions.wrapping)
      friendlyScript ⟨⟨appInit (mainParams : VehicleParams ℚ) 0,
        fun i => 50 * i + 7⟩, []⟩).toOption.map (·.1) =
      some (.failTcs "server" .errorSystem) := by decide +kernel
  obtain ⟨⟨exit, server⟩, hrun, _⟩ := exists_ok_of_map hexit
  refine ⟨exit, server, hrun, ?_⟩
  have hholds := (wire_commands_in_force Conversions.wrapping
    (p := (mainParams : VehicleParams ℚ)) (by decide +kernel) (by decide +kernel)
    modbusTcpConfigInit friendlyScript 0 (fun i => 50 * i + 7) 6).2.2 exit server hrun
  have hcommanded : ∀ writes, writes = writesOf (entriesOfRun 6 modbusTcpConfigInit
      (liveCallbacks Conversions.wrapping) friendlyScript.clients
      ⟨appInit (mainParams : VehicleParams ℚ) 0, fun i => 50 * i + 7⟩) →
      torqueAfter mainParams.motorMaxTorqueNm
        (clamp (0 : ℚ) (-mainParams.motorMaxTorqueNm) mainParams.motorMaxTorqueNm) writes = 100 ∧
      failureAfter (mainParams : VehicleParams ℚ).motorMaxTorqueNm writes = false := by
    rintro _ rfl
    decide +kernel
  rw [(hcommanded _ rfl).1, (hcommanded _ rfl).2] at hholds
  exact hholds

end Live

end DriveSim
