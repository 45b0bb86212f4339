import DriveSim.Nmbs.Prompt
import DriveSim.Server.Ledger

/-!
# Memory safety

The behaviour of the server is undefined exactly when one of its clients sends a message
that overruns the buffer: a body of 253 bytes, or sub-requests that lead out of it.
-/

namespace DriveSim

open Lib Program Nmbs

variable {σ : Type*}

/-! ## One poll -/

section Poll

variable {st : Nmbs σ}

theorem not_short_of_length (h : 2 ≤ st.lengthField ∧ st.lengthField ≤ 255) :
    ¬ (st.lengthField < 2 ∨ 255 < st.lengthField) := by
  rwa [not_or, UInt16.not_lt, UInt16.not_lt]

theorem wp_recvMsgHeader_overflow (hheader : st.HeaderArrives)
    (hlength : 2 ≤ st.lengthField ∧ st.lengthField ≤ 255) (hlarge : msgBufSize < 8 + st.bodyLength)
    (harrives : (st.conn.incoming.drop 8).ArrivesWithin st.byteLimit st.bodyLength)
    (Q : NmbsError × Bool → Nmbs σ → Prop) : Wp (· = .undefined) recvMsgHeader Q st := by
  have hcount : st.lengthField.toNat - 2 = st.bodyLength := rfl
  have hpos : 0 < st.bodyLength := by
    unfold msgBufSize at hlarge
    omega
  rw [← gotFields_incoming, ← gotFields_readLimit] at harrives
  rw [wp_recvMsgHeader_of_first hheader.1, wp_recvFields_of_header hheader, recvBody,
    if_neg (not_short_of_length hlength), hcount, wp_bind,
    wp_recv_overflow rfl hpos hlarge harrives]

/-- A message that overruns the buffer. -/
theorem wp_nmbsServerPoll_overrun (h : st.Overruns) (Q : NmbsError → Nmbs σ → Prop) :
    Wp (· = .undefined) nmbsServerPoll Q st := by
  rw [nmbsServerPoll, wp_bind, msgStateReset, wp_modify, wp_bind]
  obtain ⟨hheader, hlength, hlarge, harrives⟩ | ⟨harrives, hwell, hunfit⟩ := h
  · have hreset : st.reset.HeaderArrives := ⟨hheader.1, hheader.2⟩
    exact wp_recvMsgHeader_overflow hreset hlength hlarge harrives _
  · have hreset : st.reset.Arrives :=
      ⟨⟨harrives.1.1, harrives.1.2⟩, harrives.2, harrives.3, harrives.4⟩
    have hmsg : st.reset.gotMessage.msg = st.received.msg := rfl
    have hready : st.reset.gotMessage.Ready := ⟨rfl, rfl⟩
    rw [← malformed_congr hmsg] at hwell
    rw [← scanFits_congr hmsg] at hunfit
    apply (wp_recvMsgHeader_arrives hreset _).mpr
    dsimp only
    rw [if_neg (by decide), wp_bind]
    exact wp_handleReqFc_of_overrun (H := (· = .undefined)) rfl hready hwell hunfit _

theorem error_of_wp {τ : Type*} {α : Type} {x : Program τ α} {s : τ}
    (h : Wp (· = .undefined) x (fun _ _ => False) s) : x s = .error .undefined := by
  unfold Wp at h
  cases hx : x s with
  | ok r =>
      rw [hx] at h
      exact h.elim
  | error halted =>
      rw [hx] at h
      rw [h]

theorem poll_undefined_iff (st : Nmbs σ) : nmbsServerPoll st = .error .undefined ↔ st.Overruns :=
  ⟨fun h => wp_error (wp_nmbsServerPoll_effect st) h rfl,
    fun h => error_of_wp (wp_nmbsServerPoll_overrun h _)⟩

end Poll

/-! ## One session -/

section Session

variable {st st' st'' : Nmbs σ}

theorem Polled.snoc (h : Polled st st') (hpoll : nmbsServerPoll st' = .ok (.none, st'')) :
    Polled st st'' := by
  induction h with
  | here st => exact .next hpoll (.here st'')
  | next hfirst _ ih => exact .next hfirst (ih hpoll)

/-- A session stays defined as long as no poll overruns the buffer. -/
theorem wp_session_defined (st : Nmbs σ) (fuel : Nat) :
    Wp (fun halted => halted = .undefined → ∃ st', Polled st st' ∧ st'.Overruns)
      (loop sessionRound fuel) (fun _ _ => True) st := by
  apply wp_loop (I := Polled st) (fun hrunning => Halt.noConfusion hrunning) _ fuel (.here st)
  intro st₁ hpolled
  rw [sessionRound, wp_bind]
  apply wp_mono (wp_weaken (wp_run (wp_nmbsServerPoll_effect st₁)) fun halted h hundefined =>
    ⟨st₁, hpolled, h hundefined⟩)
  rintro err st₂ ⟨hpoll, _⟩
  by_cases herr : err = .none
  · subst herr
    exact hpolled.snoc hpoll
  · rw [if_neg herr]
    split_ifs <;> trivial

theorem session_undefined (h : Polled st st') (hoverrun : st'.Overruns) :
    ∃ fuel, loop sessionRound fuel st = .error .undefined := by
  induction h with
  | here st =>
      refine ⟨1, ?_⟩
      have hround : sessionRound st = .error .undefined :=
        bind_error ((poll_undefined_iff st).mpr hoverrun)
      rw [loop_succ, hround]
  | next hpoll _ ih =>
      obtain ⟨fuel, hloop⟩ := ih hoverrun
      refine ⟨fuel + 1, ?_⟩
      have hround : sessionRound _ = .ok (none, _) := bind_eq hpoll
      rw [loop_succ, hround]
      exact hloop

end Session

/-! ## The whole run -/

section Run

variable {config : ModbusTcpConfig} {callbacks : NmbsCallbacks σ}

theorem wp_acceptLoop_defined (config : ModbusTcpConfig) (callbacks : NmbsCallbacks σ)
    (fuel : Nat) (accepts : List Accept) (userData : σ) (log : List SocketCall) :
    Wp (fun halted => halted = .undefined →
        ∃ st, PollReached config callbacks accepts userData st ∧ st.Overruns)
      (acceptLoop (fun userData conn => runModbusSession fuel config callbacks userData conn)
        accepts) (fun _ _ => True) ⟨userData, log⟩ := by
  induction accepts generalizing userData log with
  | nil => trivial
  | cons accept accepts ih =>
      rw [wp_acceptLoop_cons]
      refine ⟨fun _ => by rw [wp_of_eq (cleanup_eq true _ _)]; trivial, fun haccepted => ?_⟩
      have hsession := wp_session_defined
        (sessionStart config callbacks userData accept.conn) fuel
      apply wp_serveClient
      refine wp_mono (wp_weaken (wp_run hsession) ?_) ?_
      · intro halted h hundefined
        obtain ⟨st', hpolled, hoverrun⟩ := h hundefined
        exact ⟨st', .now haccepted hpolled, hoverrun⟩
      · rintro err st ⟨hloop, _⟩
        refine ⟨fun _ => trivial, fun _ _ => trivial, fun hclosed herr => ?_⟩
        subst herr
        have hserved := runModbusSession_of_loop hloop
        apply wp_weaken (ih st.arg _)
        intro halted h hundefined
        obtain ⟨st', hreached, hoverrun⟩ := h hundefined
        exact ⟨st', .later haccepted hserved hclosed hreached, hoverrun⟩

theorem acceptLoop_undefined {accepts : List Accept} {userData : σ} {st : Nmbs σ}
    (h : PollReached config callbacks accepts userData st) (hoverrun : st.Overruns) :
    ∃ fuel₀, ∀ fuel ≥ fuel₀, ∀ log : List SocketCall,
      Wp (· = .undefined)
        (acceptLoop (fun userData conn => runModbusSession fuel config callbacks userData conn)
          accepts) (fun _ _ => False) ⟨userData, log⟩ := by
  induction h with
  | now haccepted hpolled =>
      obtain ⟨fuel₀, hloop⟩ := session_undefined hpolled hoverrun
      refine ⟨fuel₀, fun fuel hfuel log => ?_⟩
      have hmore := loop_mono hfuel (by rw [hloop]; simp)
      rw [wp_acceptLoop_cons]
      refine ⟨fun hrefused => absurd haccepted hrefused, fun _ => wp_serveClient ?_⟩
      rw [Wp, hmore, hloop]
  | @later accept accepts userData userData' st fuel₁ haccepted hserved hclosed _ ih =>
      obtain ⟨fuel₀, hrest⟩ := ih hoverrun
      obtain ⟨st₁, hloop, rfl⟩ := loop_of_runModbusSession hserved
      refine ⟨max fuel₀ fuel₁, fun fuel hfuel log => ?_⟩
      have hmore := loop_mono (le_of_max_le_right hfuel) (by rw [hloop]; simp)
      rw [wp_acceptLoop_cons]
      refine ⟨fun hrefused => absurd haccepted hrefused, fun _ => wp_serveClient ?_⟩
      rw [wp_of_eq (hmore.trans hloop)]
      exact ⟨fun hopen => absurd hclosed hopen, fun _ herr => absurd rfl herr,
        fun _ _ => hrest fuel (le_of_max_le_left hfuel) _⟩

/-- The behaviour of a run becomes undefined exactly when some client gets the server to
poll for a message that overruns the buffer. -/
theorem run_undefined_iff_overruns (config : ModbusTcpConfig) (callbacks : NmbsCallbacks σ)
    (script : SocketScript) (userData : σ) :
    (∃ fuel, modbusTcpRun fuel config callbacks script ⟨userData, []⟩ = .error .undefined) ↔
      ∃ st, PollReached config callbacks script.clients userData st ∧ st.Overruns := by
  by_cases hsetup : script.SetsUp
  · rw [SocketScript.clients, if_pos hsetup]
    constructor
    · rintro ⟨fuel, hrun⟩
      have hdefined := wp_modbusTcpRun_of_setsUp hsetup
        (wp_acceptLoop_defined config callbacks fuel script.accepts userData)
      exact wp_error hdefined hrun rfl
    · rintro ⟨st, hreached, hoverrun⟩
      obtain ⟨fuel, hloop⟩ := acceptLoop_undefined hreached hoverrun
      exact ⟨fuel, error_of_wp (wp_modbusTcpRun_of_setsUp hsetup (hloop fuel le_rfl))⟩
  · rw [SocketScript.clients, if_neg hsetup]
    constructor
    · rintro ⟨fuel, hrun⟩
      have hdefined : Wp (fun _ => False) (modbusTcpRun fuel config callbacks script)
          (fun _ _ => True) ⟨userData, []⟩ :=
        wp_modbusTcpRun_of_not_setsUp hsetup fun _ _ => trivial
      exact absurd (wp_error hdefined hrun) not_false
    · rintro ⟨st, hreached, _⟩
      cases hreached

end Run

end DriveSim
