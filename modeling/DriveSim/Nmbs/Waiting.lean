import DriveSim.Nmbs.Exchange

/-!
# How long a poll waits

All the time a poll takes is spent in its reads and in the send of its answer.  A read with
a positive timeout returns when that is over, and a read on a connection that ends returns
when it ends.  The flush alone reads without a limit; it is reached by way of a message that
no handler takes, or that gets no answer.  A send takes as long as the peer likes.
-/

namespace DriveSim

open Lib Program Nmbs

variable {σ : Type*}

/-! ## Reads -/

def ReadsTo (H : Halt → Prop) (P : Conn → Prop) (count : Nat) (timeoutMs : Int)
    (Q : Conn → Prop) : Prop :=
  ∀ conn, P conn → (modbusTransportRead conn count timeoutMs = none → H .running) ∧
    ∀ result, modbusTransportRead conn count timeoutMs = some result → Q result.conn

section Reads

variable {conn : Conn} {count : Nat} {timeoutMs : Int}

theorem read_in_time (conn : Conn) (count : Nat) (hpos : 0 < timeoutMs) :
    ∃ result, modbusTransportRead conn count timeoutMs = some result ∧
      result.conn.clock ≤ conn.clock + timeoutMs.toNat := by
  have hlimit : (conn.withTimeout timeoutMs).limit = some timeoutMs.toNat := by
    have hset : (conn.withTimeout timeoutMs).rcvTimeo = timeoutMs.toNat := if_pos hpos.le
    rw [Conn.limit, hset, Conn.limitOf, if_neg (by omega)]
  have helapsed : ((conn.withTimeout timeoutMs).reception count).cause ≠ .blocked ∧
      ((conn.withTimeout timeoutMs).reception count).elapsed ≤ timeoutMs.toNat := by
    rw [Conn.reception, hlimit]
    split_ifs
    · exact (TimedStream.awaited _ _).elapsed_le
    · exact (TimedStream.received _ _ _).elapsed_le
  rw [modbusTransportRead_eq]
  dsimp only
  rw [if_neg helapsed.1]
  exact ⟨_, rfl, Nat.add_le_add_left helapsed.2 _⟩

/-- The milliseconds that the next `count` sends take. -/
def Conn.sendTime (conn : Conn) (count : Nat) : Nat :=
  ((List.range count).map fun i => ((conn.sends i).map SendOutcome.elapsed).getD 0).sum

theorem Conn.sendTime_succ {o : SendOutcome} (h : conn.sends count = some o) :
    conn.sendTime (count + 1) = conn.sendTime count + o.elapsed := by
  rw [sendTime, List.range_succ, List.map_append, List.sum_append, List.map_singleton,
    List.sum_singleton, h]
  rfl

/-- The connection `start` after `sent` messages: its peer will have hung up when the clock
shows `t`, or as much later as the sends have taken. -/
def Conn.OverAt (start : Conn) (t sent : Nat) (conn : Conn) : Prop :=
  (∀ i, conn.sends i = start.sends (i + sent)) ∧
    ∃ left, conn.incoming.endTime = some left ∧ conn.clock + left ≤ t + start.sendTime sent

theorem Conn.OverAt.sent {start : Conn} {t sent : Nat} (h : start.OverAt t sent conn)
    {o : SendOutcome} (ho : conn.sends 0 = some o) (bytes : List UInt8) :
    start.OverAt t (sent + 1) (conn.sent o bytes) := by
  obtain ⟨hsends, left, hleft, hsum⟩ := h
  have ho' : start.sends sent = some o := by
    rw [← ho, hsends, Nat.zero_add]
  refine ⟨fun i => ?_, left - o.elapsed, ?_, ?_⟩
  · rw [← Nat.add_assoc, Nat.add_right_comm]
    exact hsends (i + 1)
  · exact (TimedStream.endTime_elapse _ _).trans (by rw [hleft]; rfl)
  · have hclock : (conn.sent o bytes).clock = conn.clock + o.elapsed := rfl
    rw [Conn.sendTime_succ ho', hclock]
    omega

end Reads

/-! ## Receiving a message -/

section Receiving

variable {H : Halt → Prop} {st : Nmbs σ} {P Q : Conn → Prop} {count : Nat}

theorem wp_recv_reads (hundefined : H .undefined) (hcomplete : st.msg.complete = false)
    (hread : ReadsTo H P count st.byteTimeoutMs Q) (hP : P st.conn)
    {R : NmbsError → Nmbs σ → Prop}
    (hR : ∀ err conn buf, Q conn → R err ((st.setConn conn).setBuf buf)) :
    Wp H (recv count) R st := by
  obtain ⟨hblocked, hreturns⟩ := hread st.conn hP
  unfold Wp recv
  rw [if_neg (by rw [hcomplete]; decide)]
  cases hresult : modbusTransportRead st.conn count st.byteTimeoutMs with
  | none => exact hblocked hresult
  | some result =>
      dsimp only
      split_ifs
      · exact hundefined
      · exact hR _ _ _ (hreturns result hresult)

theorem wp_recvMsgHeader_reads {P₀ P₁ P₂ P₃ : Conn → Prop} (hundefined : H .undefined)
    (hfirst : ReadsTo H P₀ 1 st.readTimeoutMs P₁) (hheader : ReadsTo H P₁ 7 st.byteTimeoutMs P₂)
    (hbody : ∀ count, ReadsTo H P₂ count st.byteTimeoutMs P₃) (h₁ : ∀ conn, P₁ conn → P₃ conn)
    (h₂ : ∀ conn, P₂ conn → P₃ conn) (hP : P₀ st.conn) :
    Wp H recvMsgHeader (fun _ st' => P₃ st'.conn) st := by
  rw [recvMsgHeader, wp_withState]
  dsimp only
  rw [wp_bind, wp_modify, wp_bind, msgStateReset, wp_modify, wp_bind]
  apply wp_recv_reads (P := P₀) (Q := P₁) hundefined rfl
  · exact hfirst
  · exact hP
  intro err conn buf hconn
  rw [wp_bind, wp_modify]
  split_ifs
  · exact h₁ conn hconn
  rw [wp_bind, discardN, wp_modify, wp_bind]
  apply wp_recv_reads (P := P₁) (Q := P₂) hundefined rfl
  · exact hheader
  · exact hconn
  intro err conn buf hconn
  split_ifs
  · exact h₂ conn hconn
  rw [wp_bind, msgBufReset, wp_modify, wp_bind, wp_get2 (by decide), wp_bind,
    wp_get2 (by decide), wp_bind, wp_get2 (by decide), wp_bind, wp_get1 (by decide), wp_bind,
    wp_get1 (by decide), wp_bind, wp_modify]
  split
  · exact h₂ conn hconn
  rw [wp_bind]
  apply wp_recv_reads (P := P₂) (Q := P₃) hundefined rfl
  · exact hbody _
  · exact hconn
  intro err conn buf hconn
  split_ifs
  · exact hconn
  · exact hconn
  · exact hconn

end Receiving

/-! ## One poll -/

/-- The message that comes next makes the poll drop what its peer sends after it, or its
answer is not taken. -/
def Nmbs.Drops (st : Nmbs σ) : Prop :=
  st.Arrives ∧ (st.received.msg.fc.toNat ∉ supportedFcs ∨ st.received.Malformed ∨
    ¬ st.conn.Sends)

instance (st : Nmbs σ) : Decidable st.Drops := inferInstanceAs (Decidable (_ ∧ _))

section Poll

variable {H : Halt → Prop} {st : Nmbs σ} {P Q : Conn → Prop}

theorem wp_flush_reads (hread : ReadsTo H P msgBufSize 0 P) (hP : P st.conn)
    {R : Unit → Nmbs σ → Prop} (hR : ∀ conn buf, P conn → R () ((st.setConn conn).setBuf buf)) :
    Wp H flush R st := by
  obtain ⟨hblocked, hreturns⟩ := hread st.conn hP
  exact wp_flush_at hblocked fun result hresult buf => hR _ buf (hreturns result hresult)

theorem wp_afterHandler_reads {err : NmbsError}
    (hread : err ≠ .none → ReadsTo H P msgBufSize 0 P) (hP : P st.conn) :
    Wp H (do
      if err ≠ .none then
        if err ≠ .timeout then flush
        return err
      return .none) (fun _ st' => P st'.conn) st := by
  split_ifs with herr htimeout
  · rw [wp_bind]
    exact wp_flush_reads (hread herr) hP fun _ _ hconn => hconn
  · exact hP
  · exact hP

structure SendsTo (P Q : Conn → Prop) : Prop where
  weaken : ∀ conn, P conn → Q conn
  sent : ∀ conn o bytes, P conn → conn.sends 0 = some o → Q (conn.sent o bytes)

theorem wp_handleReqFc_reads (hundefined : H .undefined) (hst : st.Ready)
    (hsending : SendsTo P Q)
    (hread : st.msg.fc.toNat ∉ supportedFcs → ReadsTo H P msgBufSize 0 P) (hP : P st.conn)
    (hblocks : st.conn.SendBlocks → H .running) :
    Wp H handleReqFc (fun err st' => Q st'.conn ∧
      (err ≠ .none → st.Malformed ∨ ¬ st.conn.Sends)) st := by
  apply wp_mono (wp_handleReqFc hst (fun _ _ => hundefined) (fun hfc => (hread hfc _ hP).1) hblocks)
  rintro err st' ⟨conn, hanswers, hhandled⟩
  have hsends : conn.Sends ↔ st.conn.Sends := Conn.sends_congr hanswers.sent_eq.2
  have hconn : P conn := by
    unfold AnswersOn at hanswers
    split_ifs at hanswers with hfc
    · rwa [hanswers]
    · obtain ⟨result, hresult, rfl⟩ := hanswers
      exact (hread hfc _ hP).2 result hresult
  have hreplied : ∀ {start : Nmbs σ} {fc : UInt8}, start.conn = conn →
      Replied start fc err st' → Q st'.conn ∧
        (err ≠ .none → st.Malformed ∨ ¬ st.conn.Sends) := by
    intro start fc hstart h
    obtain ⟨bytes, o, _, ho, hsent⟩ := h.answer
    refine ⟨?_, fun herr => .inr fun hsent => herr ?_⟩
    · rw [hsent, hstart]
      exact hsending.sent conn o bytes hconn (hstart ▸ ho)
    · rw [h.err_eq, hstart, if_pos (hsends.mpr hsent)]
  cases hhandled with
  | invalid hmalformed hframed =>
      exact ⟨hframed.conn_eq ▸ hsending.weaken conn hconn, fun _ => .inl hmalformed⟩
  | notAsked _ _ h => exact hreplied rfl h
  | refused _ _ _ h => exact hreplied rfl h
  | served _ _ _ h => exact hreplied rfl h

/-- Whatever the reads and the send of a poll preserve, the poll preserves. -/
theorem wp_nmbsServerPoll_reads (hundefined : H .undefined)
    (hheader : Wp H recvMsgHeader (fun _ st' => P st'.conn) st.reset) (hsending : SendsTo P Q)
    (hblocks : st.Arrives → st.conn.SendBlocks → H .running)
    (hread : st.Drops → ReadsTo H P msgBufSize 0 P ∧ ReadsTo H Q msgBufSize 0 Q) :
    Wp H nmbsServerPoll (fun _ st' => Q st'.conn) st := by
  rw [nmbsServerPoll, wp_bind, msgStateReset, wp_modify, wp_bind]
  apply wp_mono (wp_run hheader)
  rintro ⟨err, first⟩ st₁ ⟨hrun, hP⟩
  have hreceived := wp_ok (wp_recvMsgHeader_received st.reset) hrun
  dsimp only
  by_cases herr : err = .none
  · subst herr
    obtain ⟨harrives, hmsg, _⟩ := hreceived.message rfl
    have harrives' : st.Arrives := ⟨harrives.1, harrives.2, harrives.3, harrives.4⟩
    have hready : st₁.Ready := by
      constructor <;> rw [hmsg] <;> rfl
    have hmsg' : st₁.msg = st.received.msg := hmsg
    have hsame : st₁.conn.sends = st.conn.sends := hreceived.quiet.sends_eq
    have hsends : st₁.conn.Sends ↔ st.conn.Sends := Conn.sends_congr hsame
    have hblocks' : st₁.conn.SendBlocks → H .running := fun hnone =>
      hblocks harrives' ((congrFun hsame 0).symm.trans hnone)
    rw [if_neg (by decide), wp_bind]
    have hunsupported : st₁.msg.fc.toNat ∉ supportedFcs → ReadsTo H P msgBufSize 0 P := by
      intro hfc
      exact (hread ⟨harrives', .inl (hmsg' ▸ hfc)⟩).1
    apply wp_mono (wp_handleReqFc_reads hundefined hready hsending hunsupported hP
      hblocks')
    rintro err st₂ ⟨hQ, hfailed⟩
    apply wp_afterHandler_reads (fun herr => ?_) hQ
    rw [malformed_congr hmsg', hsends] at hfailed
    exact (hread ⟨harrives', .inr (hfailed herr)⟩).2
  · rw [if_pos herr]
    split_ifs <;> exact hsending.weaken _ hP

theorem wp_nmbsServerPoll_in_time (hreadTimeout : 0 < st.readTimeoutMs)
    (hbyteTimeout : 0 < st.byteTimeoutMs) (hkeeps : ¬ st.Drops) :
    Wp (· = .undefined) nmbsServerPoll (fun _ st' => st'.conn.clock ≤ st.conn.clock +
      (st.readTimeoutMs + 2 * st.byteTimeoutMs).toNat + st.conn.sendTime 1) st := by
  have hreads : ∀ {timeoutMs : Int}, 0 < timeoutMs → ∀ count t,
      ReadsTo (· = .undefined) (fun conn => conn.clock ≤ t ∧ conn.sends = st.conn.sends) count
        timeoutMs (fun conn => conn.clock ≤ t + timeoutMs.toNat ∧ conn.sends = st.conn.sends) := by
    rintro timeoutMs hpos count t conn ⟨hclock, hsends⟩
    obtain ⟨result, hread, hresult⟩ := read_in_time conn count hpos
    refine ⟨fun hblocked => absurd (hread.symm.trans hblocked) (Option.some_ne_none _), ?_⟩
    intro result' hread'
    obtain rfl := Option.some.inj (hread.symm.trans hread')
    exact ⟨by omega, (sent_of_read hread).2.trans hsends⟩
  have hheader : Wp (· = .undefined) recvMsgHeader (fun _ st' => st'.conn.clock ≤
      st.conn.clock + st.readTimeoutMs.toNat + st.byteTimeoutMs.toNat + st.byteTimeoutMs.toNat ∧
        st'.conn.sends = st.conn.sends) st.reset :=
    wp_recvMsgHeader_reads (H := (· = .undefined)) rfl (hreads hreadTimeout 1 st.conn.clock)
      (hreads hbyteTimeout 7 _) (fun count => hreads hbyteTimeout count _)
      (fun _ h => ⟨h.1.trans (by omega), h.2⟩) (fun _ h => ⟨h.1.trans (by omega), h.2⟩)
      ⟨le_rfl, rfl⟩
  apply wp_nmbsServerPoll_reads (P := fun conn => conn.clock ≤ st.conn.clock +
    (st.readTimeoutMs + 2 * st.byteTimeoutMs).toNat ∧ conn.sends = st.conn.sends)
    (Q := fun conn => conn.clock ≤ st.conn.clock +
      (st.readTimeoutMs + 2 * st.byteTimeoutMs).toNat + st.conn.sendTime 1)
  · rfl
  · apply wp_mono hheader
    rintro _ st' ⟨hclock, hsends⟩
    exact ⟨by omega, hsends⟩
  · refine ⟨fun conn h => h.1.trans (Nat.le_add_right _ _), fun conn o bytes h ho => ?_⟩
    have hsent : (conn.sent o bytes).clock = conn.clock + o.elapsed := rfl
    rw [h.2] at ho
    rw [hsent, Conn.sendTime_succ ho]
    omega
  · exact fun harrives hnone =>
      absurd ⟨harrives, .inr (.inr fun hsends => hsends.not_sendBlocks hnone)⟩ hkeeps
  · exact fun hdrops => absurd hdrops hkeeps

end Poll

end DriveSim
