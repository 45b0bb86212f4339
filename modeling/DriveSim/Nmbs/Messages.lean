import DriveSim.Nmbs.Handlers
import Mathlib.Tactic.Linarith

/-!
# Reading and answering a message

While a handler reads a request only the buffer index moves; while it answers only the
buffer and its index change, and the function code stays in cell 7.  `Building` is what
holds in between, and `Replied` what is left when the answer has been sent.
-/

namespace DriveSim

open Lib Program Nmbs

variable {σ : Type*}

/-! ## Reading -/

namespace Nmbs

@[simp] theorem seek_seek (st : Nmbs σ) (m n : Nat) : (st.seek m).seek n = st.seek n := rfl

@[simp] theorem seek_bufIdx (st : Nmbs σ) (n : Nat) : (st.seek n).msg.bufIdx = n := rfl

@[simp] theorem seek_callbacks (st : Nmbs σ) (n : Nat) :
    (st.seek n).callbacks = st.callbacks := rfl

structure Ready (st : Nmbs σ) : Prop where
  complete : st.msg.complete = true
  bufIdx : st.msg.bufIdx = 8

theorem Ready.seek_eq {st : Nmbs σ} (h : st.Ready) : st.seek 8 = st := by
  rw [seek, ← h.bufIdx]

def wordAt (st : Nmbs σ) (i : Nat) : UInt16 := word (st.msg.buf i) (st.msg.buf (i + 1))

def subrequestAt (st : Nmbs σ) (n : Nat) : Subrequest :=
  ⟨st.msg.buf n, st.wordAt (n + 1), st.wordAt (n + 3), st.wordAt (n + 5)⟩

end Nmbs

section Reading

variable {H : Halt → Prop} {st : Nmbs σ} {n : Nat}

@[simp] theorem wp_get1 (hn : n < msgBufSize) (Q : UInt8 → Nmbs σ → Prop) :
    Wp H get1 Q (st.seek n) ↔ Q (st.msg.buf n) (st.seek (n + 1)) := by
  have hrun : get1 (st.seek n) = .ok (st.msg.buf n, st.seek (n + 1)) := if_pos hn
  exact wp_of_eq hrun Q

@[simp] theorem wp_get2 (hn : n + 1 < msgBufSize) (Q : UInt16 → Nmbs σ → Prop) :
    Wp H get2 Q (st.seek n) ↔ Q (st.wordAt n) (st.seek (n + 2)) := by
  rw [get2, wp_bind, wp_get1 (by omega), wp_bind, wp_get1 hn, wp_pure]
  rfl

@[simp] theorem wp_recv (hcomplete : st.msg.complete = true) (count : Nat)
    (Q : NmbsError → Nmbs σ → Prop) :
    Wp H (recv count) Q (st.seek n) ↔ Q .none (st.seek n) := by
  have hrun : recv count (st.seek n) = .ok (.none, st.seek n) := if_pos hcomplete
  exact wp_of_eq hrun Q

/-- With the whole message in the buffer the calls of `recv` only pass. -/
theorem wp_recv_pass (hcomplete : st.msg.complete = true) (count : Nat)
    (rest : NmbsM σ NmbsError) (Q : NmbsError → Nmbs σ → Prop) :
    Wp H (do
      let err ← recv count
      if err ≠ .none then return err
      rest) Q (st.seek n) ↔ Wp H rest Q (st.seek n) := by
  rw [wp_bind, wp_recv hcomplete, if_neg (not_not.mpr rfl)]

@[simp] theorem wp_discardN (count : Nat) (Q : Unit → Nmbs σ → Prop) :
    Wp H (discardN count) Q (st.seek n) ↔ Q () (st.seek ((n + count) % 65536)) := Iff.rfl

theorem filled_succ {α : Type*} (cells : Cells α) (i count : Nat) {f g : Nat → α}
    (hfg : ∀ k, g k = f (k + 1)) :
    (fun j => if i + 1 ≤ j ∧ j < i + 1 + count then g (j - (i + 1)) else cells.set i (f 0) j) =
      fun j => if i ≤ j ∧ j < i + (count + 1) then f (j - i) else cells j := by
  ext j : 1
  rcases eq_or_ne j i with rfl | hne
  · simp
  · have hrange : (i + 1 ≤ j ∧ j < i + 1 + count) ↔ (i ≤ j ∧ j < i + (count + 1)) := by omega
    rw [Cells.set_of_ne cells hne]
    simp only [hrange, hfg]
    split_ifs with h
    · have hcell : j - (i + 1) + 1 = j - i := by omega
      rw [hcell]
    · rfl

theorem wp_getBytes (cells : Cells UInt8) (i count : Nat) (hn : n + count ≤ msgBufSize)
    (Q : Cells UInt8 → Nmbs σ → Prop) :
    Wp H (getBytes cells i count) Q (st.seek n) ↔
      Q (fun j => if i ≤ j ∧ j < i + count then st.msg.buf (n + (j - i)) else cells j)
        (st.seek (n + count)) := by
  induction count generalizing cells i n with
  | zero =>
      have hempty : ∀ j, ¬ (i ≤ j ∧ j < i) := by omega
      simp [getBytes, hempty]
  | succ count ih =>
      have hindex : n + 1 + count = n + (count + 1) := by omega
      have hcells := filled_succ cells i count (f := fun k => st.msg.buf (n + k))
        (g := fun k => st.msg.buf (n + 1 + k)) fun k => by rw [Nat.add_assoc, Nat.add_comm 1 k]
      rw [getBytes, wp_bind, wp_get1 (by omega), ih _ _ (by omega), hindex]
      exact iff_of_eq (congrArg (Q · _) hcells)

theorem wp_getRegisters (cells : Cells UInt16) (i count : Nat)
    (hn : n + 2 * count ≤ msgBufSize) (Q : Cells UInt16 → Nmbs σ → Prop) :
    Wp H (getRegisters cells i count) Q (st.seek n) ↔
      Q (fun j => if i ≤ j ∧ j < i + count then st.wordAt (n + 2 * (j - i)) else cells j)
        (st.seek (n + 2 * count)) := by
  induction count generalizing cells i n with
  | zero =>
      have hempty : ∀ j, ¬ (i ≤ j ∧ j < i) := by omega
      simp [getRegisters, hempty]
  | succ count ih =>
      have hindex : n + 2 + 2 * count = n + 2 * (count + 1) := by omega
      have hcells := filled_succ cells i count (f := fun k => st.wordAt (n + 2 * k))
        (g := fun k => st.wordAt (n + 2 + 2 * k)) fun k => by
          rw [Nat.mul_add, Nat.mul_one, Nat.add_comm (2 * k), Nat.add_assoc]
      rw [getRegisters, wp_bind, wp_get2 (by omega), ih _ _ (by omega), hindex]
      exact iff_of_eq (congrArg (Q · _) hcells)

@[simp] theorem wp_getSubrequest (hn : n + 6 < msgBufSize) (Q : Subrequest → Nmbs σ → Prop) :
    Wp H getSubrequest Q (st.seek n) ↔ Q (st.subrequestAt n) (st.seek (n + 7)) := by
  rw [getSubrequest, wp_bind, wp_get1 (by omega), wp_bind, wp_get2 (by omega), wp_bind,
    wp_get2 (by omega), wp_bind, wp_get2 (by omega), wp_pure]
  rfl

/-! Where undefined behaviour is allowed, a read may also leave the buffer. -/

theorem wp_get1_of_undefined (hH : H .undefined) {Q : UInt8 → Nmbs σ → Prop}
    (hQ : n < msgBufSize → Q (st.msg.buf n) (st.seek (n + 1))) : Wp H get1 Q (st.seek n) := by
  by_cases hn : n < msgBufSize
  · exact (wp_get1 hn Q).mpr (hQ hn)
  · have hrun : get1 (st.seek n) = .error .undefined := if_neg hn
    rwa [Wp, hrun]

theorem wp_get2_of_undefined (hH : H .undefined) {Q : UInt16 → Nmbs σ → Prop}
    (hQ : n + 1 < msgBufSize → Q (st.wordAt n) (st.seek (n + 2))) : Wp H get2 Q (st.seek n) := by
  rw [get2, wp_bind]
  apply wp_get1_of_undefined hH
  intro _
  rw [wp_bind]
  apply wp_get1_of_undefined hH
  exact hQ

theorem wp_getSubrequest_of_undefined (hH : H .undefined) (hn : msgBufSize < n + 7)
    (Q : Subrequest → Nmbs σ → Prop) : Wp H getSubrequest Q (st.seek n) := by
  rw [getSubrequest, wp_bind]
  apply wp_get1_of_undefined hH
  intro _
  rw [wp_bind]
  apply wp_get2_of_undefined hH
  intro _
  rw [wp_bind]
  apply wp_get2_of_undefined hH
  intro _
  rw [wp_bind]
  apply wp_get2_of_undefined hH
  intro hlast
  omega

theorem wp_getSubrequests (count : Nat) (hn : n + 7 * count ≤ msgBufSize)
    (Q : List Subrequest → Nmbs σ → Prop)
    (hQ : ∀ subreqs, Q subreqs (st.seek (n + 7 * count))) :
    Wp H (getSubrequests count) Q (st.seek n) := by
  induction count generalizing n Q with
  | zero => exact hQ []
  | succ count ih =>
      rw [getSubrequests, wp_bind, wp_getSubrequest (by omega), wp_bind]
      apply ih (by omega)
      intro subreqs
      have hindex : n + 7 + 7 * count = n + 7 * (count + 1) := by omega
      rw [hindex]
      exact hQ _

end Reading

theorem wp_runCallback {α : Type} (callback : UInt8 → σ → α × σ) {H : Halt → Prop} {st : Nmbs σ}
    {n : Nat} (Q : α → Nmbs σ → Prop) :
    Wp H (runCallback callback) Q (st.seek n) ↔
      Q (callback st.msg.unitId st.arg).1
        ((st.setArg (callback st.msg.unitId st.arg).2).seek n) := Iff.rfl

/-! ## Answering -/

structure Framed (st st' : Nmbs σ) : Prop where
  conn_eq : st'.conn = st.conn
  arg_eq : st'.arg = st.arg
  callbacks_eq : st'.callbacks = st.callbacks
  byteTimeout_eq : st'.byteTimeoutMs = st.byteTimeoutMs
  readTimeout_eq : st'.readTimeoutMs = st.readTimeoutMs

structure Building (st : Nmbs σ) (fc : UInt8) (n : Nat) (st' : Nmbs σ) : Prop where
  framed : Framed st st'
  bufIdx : st'.msg.bufIdx = n
  fc_eq : st'.msg.fc = fc
  cell_eq : st'.msg.buf 7 = fc
  header : 8 ≤ n

structure Replied (st : Nmbs σ) (fc : UInt8) (err : NmbsError) (st' : Nmbs σ) : Prop where
  answer : ∃ bytes o, bytes[7]? = some fc ∧ st.conn.sends 0 = some o ∧
    st'.conn = st.conn.sent o bytes
  err_eq : err = if st.conn.Sends then .none else .transport
  arg_eq : st'.arg = st.arg
  callbacks_eq : st'.callbacks = st.callbacks
  byteTimeout_eq : st'.byteTimeoutMs = st.byteTimeoutMs
  readTimeout_eq : st'.readTimeoutMs = st.readTimeoutMs

theorem written_sent {conn : Conn} {o : SendOutcome} (h : conn.sends 0 = some o)
    (bytes : List UInt8) :
    (conn.sent o bytes).written = (if conn.Sends then [bytes] else []) ++ conn.written := by
  simp only [Conn.sent, Conn.sends_iff h]
  split_ifs <;> rfl

theorem Replied.written_of_sent {st st' : Nmbs σ} {fc : UInt8} {err : NmbsError}
    (h : Replied st fc err st') (hsent : st.conn.Sends) :
    ∃ bytes, st'.conn.written = bytes :: st.conn.written ∧ bytes[7]? = some fc := by
  obtain ⟨bytes, o, hbyte, houtcome, hconn⟩ := h.answer
  refine ⟨bytes, ?_, hbyte⟩
  rw [hconn, written_sent houtcome, if_pos hsent]
  rfl

theorem Replied.written_of_unsent {st st' : Nmbs σ} {fc : UInt8} {err : NmbsError}
    (h : Replied st fc err st') (hunsent : ¬ st.conn.Sends) :
    st'.conn.written = st.conn.written := by
  obtain ⟨bytes, o, _, houtcome, hconn⟩ := h.answer
  rw [hconn, written_sent houtcome, if_neg hunsent]
  rfl

section Answering

variable {H : Halt → Prop} {start st : Nmbs σ} {fc : UInt8} {n : Nat}

theorem wp_getRegs {count : Nat} (hn : n + 2 * count ≤ msgBufSize) {Q : Unit → Nmbs σ → Prop}
    (hQ : ∀ st', Framed st st' → st'.msg.fc = st.msg.fc → Q () st') :
    Wp H (getRegs count) Q (st.seek n) := by
  have hrun : getRegs count (st.seek n) = .ok ((), (st.setBuf
      (swappedRegisters st.msg.buf n count)).seek ((n + 2 * count) % 65536)) :=
    if_neg (Nat.not_lt.mpr hn)
  rw [wp_of_eq hrun]
  exact hQ _ ⟨rfl, rfl, rfl, rfl, rfl⟩ rfl

theorem wp_put1_framed (h : Framed start st) (hidx : st.msg.bufIdx = n) (hn : n < msgBufSize)
    (data : UInt8) :
    Wp H (put1 data) (fun _ st' => Framed start st' ∧ st'.msg.bufIdx = n + 1 ∧
      st'.msg.fc = st.msg.fc ∧ st'.msg.buf = st.msg.buf.set n data) st := by
  have hput : put1 data st = .ok ((), (st.setBuf (st.msg.buf.set n data)).seek (n + 1)) := by
    rw [put1, hidx, if_pos hn]
  rw [wp_of_eq hput]
  exact ⟨⟨h.1, h.2, h.3, h.4, h.5⟩, rfl, rfl, rfl⟩

theorem wp_put2_framed (h : Framed start st) (hidx : st.msg.bufIdx = n)
    (hn : n + 1 < msgBufSize) (data : UInt16) :
    Wp H (put2 data) (fun _ st' => Framed start st' ∧ st'.msg.bufIdx = n + 2 ∧
      st'.msg.fc = st.msg.fc) st := by
  rw [put2, wp_bind]
  apply wp_mono (wp_put1_framed h hidx (by omega) _)
  rintro _ st₁ ⟨h₁, hidx₁, hfc₁, _⟩
  apply wp_mono (wp_put1_framed h₁ hidx₁ hn _)
  rintro _ st₂ ⟨h₂, hidx₂, hfc₂, _⟩
  exact ⟨h₂, hidx₂, hfc₂.trans hfc₁⟩

theorem wp_put1 (h : Building start fc n st) (hn : n < msgBufSize) (data : UInt8) :
    Wp H (put1 data) (fun _ st' => Building start fc (n + 1) st') st := by
  apply wp_mono (wp_put1_framed h.framed h.bufIdx hn data)
  rintro _ st' ⟨hframed, hidx, hfc, hbuf⟩
  have hcell : 7 ≠ n := Nat.ne_of_lt h.header
  refine ⟨hframed, hidx, hfc.trans h.fc_eq, ?_, Nat.le_succ_of_le h.header⟩
  rw [hbuf, Cells.set_of_ne _ hcell, h.cell_eq]

theorem wp_put2 (h : Building start fc n st) (hn : n + 1 < msgBufSize) (data : UInt16) :
    Wp H (put2 data) (fun _ st' => Building start fc (n + 2) st') st := by
  rw [put2, wp_bind]
  apply wp_mono (wp_put1 h (by omega) _)
  intro _ st' h'
  exact wp_put1 h' hn _

theorem wp_putBytes (cells : Cells UInt8) (i count : Nat) (h : Building start fc n st)
    (hn : n + count ≤ msgBufSize) :
    Wp H (putBytes cells i count) (fun _ st' => Building start fc (n + count) st') st := by
  induction count generalizing i n st with
  | zero => exact h
  | succ count ih =>
      rw [putBytes, wp_bind]
      apply wp_mono (wp_put1 h (by omega) _)
      intro _ st' h'
      have hindex : n + (count + 1) = n + 1 + count := by omega
      rw [hindex]
      exact ih _ h' (by omega)

theorem wp_putRegisters (cells : Cells UInt16) (i count : Nat) (h : Building start fc n st)
    (hn : n + 2 * count ≤ msgBufSize) :
    Wp H (putRegisters cells i count) (fun _ st' => Building start fc (n + 2 * count) st') st := by
  induction count generalizing i n st with
  | zero => exact h
  | succ count ih =>
      rw [putRegisters, wp_bind]
      apply wp_mono (wp_put2 h (by omega) _)
      intro _ st' h'
      have hindex : n + 2 * (count + 1) = n + 2 + 2 * count := by omega
      rw [hindex]
      exact ih _ h' (by omega)

theorem wp_putMsgHeader (h : Framed start st) (dataLength : UInt16) :
    Wp H (putMsgHeader dataLength) (fun _ st' => Building start st.msg.fc 8 st') st := by
  have hreset : Framed start (st.seek 0) := ⟨h.1, h.2, h.3, h.4, h.5⟩
  rw [putMsgHeader, wp_bind, msgBufReset, wp_modify, wp_withState, wp_bind]
  apply wp_mono (wp_put2_framed hreset (seek_bufIdx st 0) (by decide) _)
  rintro _ st₁ ⟨h₁, hidx₁, hfc₁⟩
  rw [wp_bind]
  apply wp_mono (wp_put2_framed h₁ hidx₁ (by decide) _)
  rintro _ st₂ ⟨h₂, hidx₂, hfc₂⟩
  rw [wp_bind]
  apply wp_mono (wp_put2_framed h₂ hidx₂ (by decide) _)
  rintro _ st₃ ⟨h₃, hidx₃, hfc₃⟩
  rw [wp_bind]
  apply wp_mono (wp_put1_framed h₃ hidx₃ (by decide) _)
  rintro _ st₄ ⟨h₄, hidx₄, hfc₄, _⟩
  apply wp_mono (wp_put1_framed h₄ hidx₄ (by decide) _)
  rintro _ st₅ ⟨h₅, hidx₅, hfc₅, hbuf⟩
  have hfc : st₅.msg.fc = st.msg.fc := by rw [hfc₅, hfc₄, hfc₃, hfc₂, hfc₁]; rfl
  refine ⟨h₅, hidx₅, hfc, ?_, le_rfl⟩
  rw [hbuf, Cells.set_self]
  rfl

theorem wp_send {count : Nat} (hn : count ≤ msgBufSize)
    (hblocks : st.conn.SendBlocks → H .running) {Q : NmbsError → Nmbs σ → Prop}
    (hQ : ∀ o, st.conn.sends 0 = some o → Q (if st.conn.Sends then .none else .transport)
      (st.setConn (st.conn.sent o (messageBytes st.msg.buf count)))) :
    Wp H (send count) Q st := by
  have hlength : (messageBytes st.msg.buf count).length = count := by simp [messageBytes]
  unfold Wp send
  rw [if_neg (by omega), modbusTransportWrite_eq, hlength]
  cases houtcome : st.conn.sends 0 with
  | none => exact hblocks houtcome
  | some o =>
      have hpost := hQ o houtcome
      simp only [Conn.sends_iff houtcome] at hpost
      dsimp only [Option.map_some]
      split_ifs at hpost ⊢ with hsent
      · rwa [transportError, if_pos rfl]
      · have hne : (-1 : Int) ≠ count := by omega
        have hlt : (-1 : Int) < count := by omega
        rwa [transportError, if_neg hne, if_pos hlt, if_pos (by decide)]

theorem wp_sendMsg (h : Building start fc n st) (hn : n ≤ msgBufSize)
    (hblocks : start.conn.SendBlocks → H .running) :
    Wp H sendMsg (fun err st' => Replied start fc err st') st := by
  have hbyte : (messageBytes st.msg.buf n)[7]? = some fc := by
    have h7 : 7 < n := h.header
    simp [messageBytes, h7, h.cell_eq]
  rw [sendMsg, wp_withState, h.bufIdx]
  apply wp_send hn
  · rwa [h.framed.conn_eq]
  · intro o houtcome
    rw [h.framed.conn_eq] at houtcome ⊢
    exact ⟨⟨_, o, hbyte, houtcome, rfl⟩, rfl, h.framed.arg_eq, h.framed.callbacks_eq,
      h.framed.byteTimeout_eq, h.framed.readTimeout_eq⟩

theorem wp_sendExceptionMsg (h : Framed start st) (exception : NmbsError)
    (hblocks : start.conn.SendBlocks → H .running) :
    Wp H (sendExceptionMsg exception)
      (fun err st' => Replied start (st.msg.fc + 0x80) err st') st := by
  have h₀ : Framed start (st.setFc (st.msg.fc + 0x80)) := ⟨h.1, h.2, h.3, h.4, h.5⟩
  rw [sendExceptionMsg, wp_bind, wp_modify, wp_bind]
  apply wp_mono (wp_putMsgHeader h₀ 1)
  intro _ st₁ h₁
  rw [wp_bind]
  apply wp_mono (wp_put1 h₁ (by decide) _)
  intro _ st₂ h₂
  exact wp_sendMsg h₂ (by decide) hblocks

end Answering

end DriveSim
