import DriveSim.Nmbs.Parametric
import DriveSim.Server.Survival

/-!
# What a server sends

The transcript of a run: for each client it has accepted, the messages it has sent to that
client.  Servers whose callbacks cannot be told apart have the same transcript, make
the same socket calls and end alike.
-/

namespace DriveSim

open Lib Program

section Transcript

variable {σ : Type*}

/-- The messages a session has sent when it is over, or else after `fuel` polls. -/
def sentInSession : Nat → Nmbs σ → List (List UInt8)
  | 0, st => st.conn.written.reverse
  | fuel + 1, st =>
      match sessionRound st with
      | .ok (none, st') => sentInSession fuel st'
      | .ok (some _, st') => st'.conn.written.reverse
      | .error _ => st.conn.written.reverse

theorem sentInSession_of_loop {fuel : Nat} {st st' : Nmbs σ} {err : NmbsError}
    (h : loop sessionRound fuel st = .ok (err, st')) :
    sentInSession fuel st = st'.conn.written.reverse := by
  induction fuel generalizing st with
  | zero => cases h
  | succ fuel ih =>
      rw [loop_succ] at h
      rw [sentInSession]
      cases hround : sessionRound st with
      | error halted =>
          rw [hround] at h
          cases h
      | ok r =>
          obtain ⟨_ | result, st₁⟩ := r <;> rw [hround] at h
          · exact ih h
          · rw [← (Prod.mk.inj (Except.ok.inj h)).2]

/-- One entry for each client that is served, as long as `acceptLoop` goes on. -/
def transcript (fuel : Nat) (config : ModbusTcpConfig) (callbacks : NmbsCallbacks σ) :
    List Accept → σ → List (List (List UInt8))
  | [], _ => []
  | accept :: accepts, userData =>
      if accept.result ≠ .success then []
      else sentInSession fuel (sessionStart config callbacks userData accept.conn) ::
        match runModbusSession fuel config callbacks userData accept.conn with
        | .ok (.none, userData') =>
            if accept.closeResult ≠ .success then []
            else transcript fuel config callbacks accepts userData'
        | _ => []

variable {fuel : Nat} {config : ModbusTcpConfig} {callbacks : NmbsCallbacks σ} {accept : Accept}
  {userData : σ} (haccepted : accept.result = .success)
include haccepted

theorem transcript_of_next (accepts : List Accept) {userData' : σ}
    (hclosed : accept.closeResult = .success)
    (hrun : runModbusSession fuel config callbacks userData accept.conn = .ok (.none, userData')) :
    transcript fuel config callbacks (accept :: accepts) userData =
      sentInSession fuel (sessionStart config callbacks userData accept.conn) ::
        transcript fuel config callbacks accepts userData' := by
  rw [transcript, if_neg (not_not.mpr haccepted), hrun]
  dsimp only
  rw [if_neg (not_not.mpr hclosed)]

theorem transcript_of_last (accepts : List Accept)
    (hlast : ∀ userData', runModbusSession fuel config callbacks userData accept.conn =
      .ok (.none, userData') → accept.closeResult ≠ .success) :
    transcript fuel config callbacks (accept :: accepts) userData =
      [sentInSession fuel (sessionStart config callbacks userData accept.conn)] := by
  rw [transcript, if_neg (not_not.mpr haccepted)]
  split
  · next userData' hrun => rw [if_pos (hlast userData' hrun)]
  · rfl

end Transcript

variable {σ τ : Type*} {R : σ → τ → Prop}

theorem inStep_sessionRound : InStep (Paired R) sessionRound sessionRound :=
  inStep_nmbsServerPoll.bind fun _ => .ite _ (.pure _) (.ite _ (.pure _) (.pure _))

theorem sentInSession_eq {s : Nmbs σ} {t : Nmbs τ} (h : Paired R s t) (fuel : Nat) :
    sentInSession fuel s = sentInSession fuel t := by
  induction fuel generalizing s t with
  | zero => rw [sentInSession, sentInSession, h.conn_eq]
  | succ fuel ih =>
      rw [sentInSession, sentInSession]
      have halike := inStep_sessionRound s t h
      generalize sessionRound s = x, sessionRound t = y at halike
      cases halike with
      | halted halt => simp only [h.conn_eq]
      | returned r h' =>
          cases r with
          | none => exact ih h'
          | some err => simp only [h'.conn_eq]

structure SameCalls (R : σ → τ → Prop) (a : Server σ) (b : Server τ) : Prop where
  calls_eq : a.calls = b.calls
  userData : R a.userData b.userData

theorem inStep_call (c : SocketCall) : InStep (SameCalls R) (call c) (call c) :=
  .modify fun _ _ h => ⟨by rw [h.calls_eq], h.userData⟩

theorem inStep_cleanup (listening : Bool) (result : TcsResult) :
    InStep (SameCalls R) (cleanup listening result) (cleanup listening result) := by
  intro a b h
  rw [cleanup_eq, cleanup_eq, h.calls_eq]
  exact .returned _ ⟨rfl, h.userData⟩

section Server

variable (config : ModbusTcpConfig) {f : NmbsCallbacks σ} {g : NmbsCallbacks τ}
  (hagree : CallbacksAgree R f g)
include hagree

theorem paired_sessionStart {s : σ} {t : τ} (h : R s t) (conn : Conn) :
    Paired R (sessionStart config f s conn) (sessionStart config g t conn) :=
  ⟨rfl, rfl, rfl, rfl, hagree, h⟩

theorem runModbusSession_alike {s : σ} {t : τ} (h : R s t) (conn : Conn) (fuel : Nat) :
    Alike R (runModbusSession fuel config f s conn) (runModbusSession fuel config g t conn) := by
  have halike := inStep_sessionRound.loop fuel _ _
    (paired_sessionStart config hagree h conn)
  unfold runModbusSession
  generalize loop sessionRound fuel (sessionStart config f s conn) = x,
    loop sessionRound fuel (sessionStart config g t conn) = y at halike
  cases halike with
  | halted halt => exact .halted halt
  | returned err h' => exact .returned err h'.arg

theorem transcript_eq {s : σ} {t : τ} (h : R s t) (accepts : List Accept) (fuel : Nat) :
    transcript fuel config f accepts s = transcript fuel config g accepts t := by
  induction accepts generalizing s t with
  | nil => rfl
  | cons accept accepts ih =>
      have halike := runModbusSession_alike config hagree h accept.conn fuel
      rw [transcript, transcript, sentInSession_eq (paired_sessionStart config hagree h _)]
      generalize runModbusSession fuel config f s accept.conn = x,
        runModbusSession fuel config g t accept.conn = y at halike
      cases halike with
      | halted halt => rfl
      | returned err h' => cases err <;> first | rfl | simp only [ih h']

theorem inStep_serveClient (conn : Conn) (fuel : Nat) :
    InStep (SameCalls R)
      (serveClient (fun userData conn => runModbusSession fuel config f userData conn) conn)
      (serveClient (fun userData conn => runModbusSession fuel config g userData conn) conn) := by
  intro a b h
  have halike := runModbusSession_alike config hagree h.userData conn fuel
  simp only [serveClient]
  generalize runModbusSession fuel config f a.userData conn = x,
    runModbusSession fuel config g b.userData conn = y at halike
  cases halike with
  | halted halt => exact .halted halt
  | returned err h' => exact .returned err ⟨h.calls_eq, h'⟩

theorem inStep_acceptLoop (accepts : List Accept) (fuel : Nat) :
    InStep (SameCalls R)
      (acceptLoop (fun userData conn => runModbusSession fuel config f userData conn) accepts)
      (acceptLoop (fun userData conn => runModbusSession fuel config g userData conn) accepts) := by
  induction accepts with
  | nil => exact .pure _
  | cons accept accepts ih =>
      refine .ite _ (inStep_cleanup true _) ((inStep_call _).bind fun _ => ?_)
      refine (inStep_serveClient config hagree _ fuel).bind fun err =>
        (inStep_call _).bind fun _ => ?_
      exact .ite _ (.pure _) (.ite _ (.pure _) ih)

theorem inStep_modbusTcpRun (script : SocketScript) (fuel : Nat) :
    InStep (SameCalls R) (modbusTcpRun fuel config f script)
      (modbusTcpRun fuel config g script) := by
  refine .ite _ (.pure _) ((inStep_call _).bind fun _ => ?_)
  refine .ite _ (inStep_cleanup false _) ((inStep_call _).bind fun _ =>
    (inStep_call _).bind fun _ => ?_)
  refine .ite _ (inStep_cleanup true _) ((inStep_call _).bind fun _ => ?_)
  exact .ite _ (inStep_cleanup true _) (inStep_acceptLoop config hagree _ fuel)

omit hagree in
/-- The states in which the two servers poll correspond to each other. -/
theorem polled_alike {s s' : Nmbs σ} {t : Nmbs τ} (h : Paired R s t) (hpolled : Polled s s') :
    ∃ t', Polled t t' ∧ Paired R s' t' := by
  induction hpolled generalizing t with
  | here s => exact ⟨t, .here t, h⟩
  | next hpoll _ ih =>
      obtain ⟨t₁, hpoll', h₁⟩ := inStep_nmbsServerPoll.returned h hpoll
      obtain ⟨t', hpolled', h'⟩ := ih h₁
      exact ⟨t', .next hpoll' hpolled', h'⟩

theorem pollReached_alike {accepts : List Accept} {s : σ} {t : τ} (h : R s t) {st : Nmbs σ}
    (hreached : PollReached config f accepts s st) :
    ∃ st', PollReached config g accepts t st' ∧ Paired R st st' := by
  induction hreached generalizing t with
  | now haccepted hpolled =>
      obtain ⟨st', hpolled', h'⟩ := polled_alike (paired_sessionStart config hagree h _) hpolled
      exact ⟨st', .now haccepted hpolled', h'⟩
  | @later accept accepts userData userData' st fuel haccepted hserved hclosed _ ih =>
      have halike := runModbusSession_alike config hagree h accept.conn fuel
      rw [hserved] at halike
      generalize hserved' : runModbusSession fuel config g t accept.conn = y at halike
      cases halike with
      | returned err h₁ =>
          obtain ⟨st', hreached', h'⟩ := ih h₁
          exact ⟨st', .later haccepted hserved' hclosed hreached', h'⟩

end Server

end DriveSim
