import DriveSim.Nmbs.Requests

/-!
# The dispatch on the function code

A received message is malformed, asks for nothing, or asks for one transition; which of
these holds is read off the buffer.  An unknown function code also drops what the peer
has sent meanwhile.
-/

namespace DriveSim

open Lib Program Nmbs

variable {σ : Type*}

def supportedFcs : List Nat := [1, 2, 3, 4, 5, 6, 15, 16, 20, 21, 23, 43]

namespace Nmbs

variable (st : Nmbs σ)

def requestFor (fc : Nat) : Option (Transition σ) :=
  match fc with
  | 1 => st.readDiscreteRequest st.callbacks.readCoils
  | 2 => st.readDiscreteRequest st.callbacks.readDiscreteInputs
  | 3 => st.readRegistersRequest st.callbacks.readHoldingRegisters
  | 4 => st.readRegistersRequest st.callbacks.readInputRegisters
  | 5 => st.writeSingleCoilRequest
  | 6 => st.writeSingleRegisterRequest
  | 15 => st.writeMultipleCoilsRequest
  | 16 => st.writeMultipleRegistersRequest
  | 23 => st.readWriteRequest
  | _ => none

def request : Option (Transition σ) := st.requestFor st.msg.fc.toNat

def MalformedFor (fc : Nat) : Prop :=
  match fc with
  | 15 => 246 < st.msg.buf 12
  | 16 => 246 < st.msg.buf 12
  | 20 => 245 < st.msg.buf 8
  | 21 => 251 < st.msg.buf 8
  | 23 => 242 < st.msg.buf 16
  | _ => False

def Malformed : Prop := st.MalformedFor st.msg.fc.toNat

instance : Decidable st.Malformed := by
  unfold Malformed MalformedFor
  split <;> infer_instance

/-- Only function code 21 can read past the buffer. -/
def ScanFits : Prop :=
  st.msg.fc.toNat = 21 → 7 ≤ st.msg.buf 8 →
    st.subrequestsFit msgBufSize 9 (st.msg.buf 8).toUInt16 = true

instance : Decidable st.ScanFits := inferInstanceAs (Decidable (_ → _))

def AnswersOn (conn : Conn) : Prop :=
  if st.msg.fc.toNat ∈ supportedFcs then conn = st.conn
  else ∃ result, modbusTransportRead st.conn msgBufSize 0 = some result ∧ conn = result.conn

section Congruence

variable {st} {st' : Nmbs σ} (h : st.msg = st'.msg)
include h

theorem malformed_congr : st.Malformed ↔ st'.Malformed := by
  unfold Malformed MalformedFor
  rw [h]

theorem subrequestsFit_congr (rounds n : Nat) (size : UInt16) :
    st.subrequestsFit rounds n size = st'.subrequestsFit rounds n size := by
  induction rounds generalizing n size with
  | zero => rfl
  | succ rounds ih =>
      have hsubreq : st.subrequestAt n = st'.subrequestAt n := by
        simp only [subrequestAt, wordAt, h]
      simp only [subrequestsFit, hsubreq, ih]

theorem scanFits_congr : st.ScanFits ↔ st'.ScanFits := by
  rw [ScanFits, ScanFits, subrequestsFit_congr h, h]

end Congruence

end Nmbs

variable {H : Halt → Prop} {st : Nmbs σ}

theorem wp_flush (hblocked : modbusTransportRead st.conn msgBufSize 0 = none → H .running)
    {Q : Unit → Nmbs σ → Prop}
    (hQ : ∀ result, modbusTransportRead st.conn msgBufSize 0 = some result →
      ∀ st', Framed (st.setConn result.conn) st' → st'.msg.fc = st.msg.fc → Q () st') :
    Wp H flush Q st := by
  unfold Wp flush
  cases hread : modbusTransportRead st.conn msgBufSize 0 with
  | none => exact hblocked hread
  | some result => exact hQ result hread _ ⟨rfl, rfl, rfl, rfl, rfl⟩ rfl

theorem Nmbs.AnswersOn.sent_eq {conn : Conn} (h : st.AnswersOn conn) :
    conn.written = st.conn.written ∧ conn.sends = st.conn.sends := by
  unfold AnswersOn at h
  split_ifs at h
  · rw [h]
    exact ⟨rfl, rfl⟩
  · obtain ⟨result, hread, rfl⟩ := h
    rw [modbusTransportRead_eq] at hread
    simp only [Option.ite_none_left_eq_some, Option.some.injEq] at hread
    rw [← hread.2]
    exact ⟨rfl, rfl⟩

theorem Nmbs.AnswersOn.sendBlocks {conn : Conn} (h : st.AnswersOn conn)
    (hblocks : st.conn.SendBlocks → H .running) : conn.SendBlocks → H .running := by
  intro hnone
  rw [Conn.SendBlocks, h.sent_eq.2] at hnone
  exact hblocks hnone

theorem request_of_unsupported (hfc : st.msg.fc.toNat ∉ supportedFcs) : st.request = none := by
  unfold Nmbs.request requestFor
  split
  case h_10 => rfl
  all_goals
    rename_i hcase
    rw [hcase] at hfc
    exact absurd (by decide) hfc

theorem not_malformed_of_unsupported (hfc : st.msg.fc.toNat ∉ supportedFcs) :
    ¬ st.Malformed := by
  unfold Malformed MalformedFor
  split
  case h_6 => exact not_false
  all_goals
    rename_i hcase
    rw [hcase] at hfc
    exact absurd (by decide) hfc

theorem wp_dispatched {fc : Nat} (hfc : st.msg.fc.toNat = fc) (hsupported : fc ∈ supportedFcs)
    {x : NmbsM σ NmbsError} (hx : Wp H x (Handled st (st.MalformedFor fc) (st.requestFor fc)) st) :
    Wp H x (fun err st' => ∃ conn, st.AnswersOn conn ∧
      Handled (st.setConn conn) st.Malformed st.request err st') st := by
  subst hfc
  apply wp_mono hx
  intro err st' hhandled
  exact ⟨st.conn, by rw [AnswersOn, if_pos hsupported], hhandled⟩

/-- Every message with a header is handled as its function code says. -/
theorem wp_handleReqFc (hst : st.Ready)
    (hscan : ¬ st.Malformed → ¬ st.ScanFits → H .undefined)
    (hblocked : st.msg.fc.toNat ∉ supportedFcs →
      modbusTransportRead st.conn msgBufSize 0 = none → H .running)
    (hblocks : st.conn.SendBlocks → H .running) :
    Wp H handleReqFc (fun err st' => ∃ conn, st.AnswersOn conn ∧
      Handled (st.setConn conn) st.Malformed st.request err st') st := by
  rw [handleReqFc, wp_withState]
  split
  case h_1 hfc => exact wp_dispatched hfc (by decide) (wp_handleReadDiscrete hblocks hst _)
  case h_2 hfc => exact wp_dispatched hfc (by decide) (wp_handleReadDiscrete hblocks hst _)
  case h_3 hfc => exact wp_dispatched hfc (by decide) (wp_handleReadRegisters hblocks hst _)
  case h_4 hfc => exact wp_dispatched hfc (by decide) (wp_handleReadRegisters hblocks hst _)
  case h_5 hfc => exact wp_dispatched hfc (by decide) (wp_handleWriteSingleCoil hblocks hst)
  case h_6 hfc => exact wp_dispatched hfc (by decide) (wp_handleWriteSingleRegister hblocks hst)
  case h_7 hfc => exact wp_dispatched hfc (by decide) (wp_handleWriteMultipleCoils hblocks hst)
  case h_8 hfc => exact wp_dispatched hfc (by decide) (wp_handleWriteMultipleRegisters hblocks hst)
  case h_9 hfc => exact wp_dispatched hfc (by decide) (wp_handleReadFileRecord hblocks hst)
  case h_10 hfc =>
    apply wp_dispatched hfc (by decide) (wp_handleWriteFileRecord hblocks hst _)
    intro hbytes hsize hfit
    apply hscan (by rwa [Malformed, hfc])
    intro hscan'
    rw [hscan' hfc hsize] at hfit
    exact Bool.noConfusion hfit
  case h_11 hfc => exact wp_dispatched hfc (by decide) (wp_handleReadWriteRegisters hblocks hst)
  case h_12 hfc =>
    exact wp_dispatched hfc (by decide) (wp_handleReadDeviceIdentification hblocks hst)
  case h_13 h1 h2 h3 h4 h5 h6 h15 h16 h20 h21 h23 h43 =>
    have hfc : st.msg.fc.toNat ∉ supportedFcs := by
      simp only [supportedFcs, List.mem_cons, List.not_mem_nil, or_false]
      rintro (h | h | h | h | h | h | h | h | h | h | h | h)
      all_goals contradiction
    rw [wp_bind]
    apply wp_flush (hblocked hfc)
    intro result hread st₁ hframed hfc₁
    have hanswers : st.AnswersOn result.conn := by
      rw [AnswersOn, if_neg hfc]
      exact ⟨result, hread, rfl⟩
    apply wp_mono (wp_sendExceptionMsg hframed _ (hanswers.sendBlocks hblocks))
    intro err st' hreplied
    rw [hfc₁] at hreplied
    exact ⟨result.conn, hanswers,
      .notAsked (not_malformed_of_unsupported hfc) (request_of_unsupported hfc) hreplied⟩

end DriveSim
