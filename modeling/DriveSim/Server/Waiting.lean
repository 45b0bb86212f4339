import DriveSim.Nmbs.Waiting
import DriveSim.Server.Overrun

/-!
# How long the server waits for its clients

A session is over when its client has hung up, and no poll on the way takes longer than its
three timeouts, unless it has to drop what follows a message.
-/

namespace DriveSim

open Lib Program Nmbs

variable {σ : Type*}

/-! ## Sessions -/

theorem Polled.timeouts_eq {st st' : Nmbs σ} (h : Polled st st') :
    st'.byteTimeoutMs = st.byteTimeoutMs ∧ st'.readTimeoutMs = st.readTimeoutMs := by
  induction h with
  | here st => exact ⟨rfl, rfl⟩
  | @next st st' st'' hpoll _ ih =>
      have hsame : st'.byteTimeoutMs = st.byteTimeoutMs ∧ st'.readTimeoutMs = st.readTimeoutMs := by
        cases wp_ok (wp_nmbsServerPoll_effect st) hpoll with
        | idle hquiet => exact ⟨hquiet.byteTimeout_eq, hquiet.readTimeout_eq⟩
        | failed hquiet => exact ⟨hquiet.byteTimeout_eq, hquiet.readTimeout_eq⟩
        | message heffect => exact ⟨heffect.byteTimeout_eq, heffect.readTimeout_eq⟩
      exact ⟨ih.1.trans hsame.1, ih.2.trans hsame.2⟩

theorem PollReached.timeouts_eq {config : ModbusTcpConfig} {callbacks : NmbsCallbacks σ}
    {accepts : List Accept} {userData : σ} {st : Nmbs σ}
    (h : PollReached config callbacks accepts userData st) :
    st.byteTimeoutMs = config.byteTimeoutMs ∧ st.readTimeoutMs = config.readTimeoutMs := by
  induction h with
  | now _ hpolled => exact hpolled.timeouts_eq
  | later _ _ _ _ ih => exact ih

/-- Whenever the server polls, it is done within the timeouts for the first byte, the header
and the body and the time that its answer takes, unless the message makes it drop what
follows, or is not answered. -/
theorem polls_in_time (config : ModbusTcpConfig) (callbacks : NmbsCallbacks σ)
    (hreadTimeout : 0 < config.readTimeoutMs) (hbyteTimeout : 0 < config.byteTimeoutMs)
    (accepts : List Accept) (userData : σ) {st : Nmbs σ}
    (hreached : PollReached config callbacks accepts userData st) :
    st.Overruns ∨ st.Drops ∨ ∃ err st', nmbsServerPoll st = .ok (err, st') ∧
      st'.conn.clock ≤ st.conn.clock +
        (config.readTimeoutMs + 2 * config.byteTimeoutMs).toNat + st.conn.sendTime 1 := by
  obtain ⟨hbyte, hread⟩ := hreached.timeouts_eq
  by_cases hdrops : st.Drops
  · exact .inr (.inl hdrops)
  rw [← hread] at hreadTimeout
  rw [← hbyte] at hbyteTimeout
  have hintime := wp_nmbsServerPoll_in_time hreadTimeout hbyteTimeout hdrops
  rw [hread, hbyte] at hintime
  cases hpoll : nmbsServerPoll st with
  | ok r =>
      have hclock := wp_ok hintime hpoll
      exact .inr (.inr ⟨r.1, r.2, rfl, hclock⟩)
  | error halted =>
      obtain rfl := wp_error hintime hpoll
      exact .inl ((poll_undefined_iff st).mp hpoll)

/-- A client that commands a torque and reads it back after a pause. -/
def pausingSession : Nmbs (AppContext ℚ) :=
  sessionStart modbusTcpConfigInit (appCallbacks Conversions.wrapping) (appInit mainParams 0)
    (clientOf [0, 1, 0, 0, 0, 6, 1, 6, 0, 0, 0, 100] [0, 2, 0, 0, 0, 6, 1, 3, 0, 0, 0, 1]
      400 2500).conn

/-- When the command has been served, the query is answered in 3 s at most. -/
theorem polls_in_time_friendly :
    ∃ st err st', nmbsServerPoll pausingSession = .ok (.none, st) ∧
      st.arg.vehicle.commandedTorqueNm = 100 ∧ nmbsServerPoll st = .ok (err, st') ∧
      st'.conn.clock ≤ st.conn.clock + 3000 := by
  have hserved : (nmbsServerPoll pausingSession).toOption.map (fun r =>
      (r.1, r.2.arg.vehicle.commandedTorqueNm, r.2.conn.sendTime 1,
        (nmbsServerPoll r.2).toOption.isSome, decide r.2.Drops)) =
      some (.none, 100, 0, true, false) := by decide +kernel
  obtain ⟨⟨err, st⟩, hpoll, hstate⟩ := exists_ok_of_map hserved
  simp only [Prod.mk.injEq, decide_eq_false_iff_not] at hstate
  obtain ⟨rfl, htorque, hatOnce, hdefined, hkeeps⟩ := hstate
  have hreached : PollReached modbusTcpConfigInit (appCallbacks Conversions.wrapping)
      [clientOf [0, 1, 0, 0, 0, 6, 1, 6, 0, 0, 0, 100] [0, 2, 0, 0, 0, 6, 1, 3, 0, 0, 0, 1]
        400 2500] (appInit (mainParams : VehicleParams ℚ) 0) st :=
    .now rfl (.next hpoll (.here st))
  obtain hoverruns | hdrops | ⟨err, st', hreturns, hclock⟩ := polls_in_time modbusTcpConfigInit
    (appCallbacks Conversions.wrapping) (by decide) (by decide) _ _ hreached
  · rw [(poll_undefined_iff _).mpr hoverruns] at hdefined
    exact Bool.noConfusion hdefined
  · exact absurd hdrops hkeeps
  · rw [hatOnce] at hclock
    exact ⟨st, err, st', hpoll, htorque, hreturns, hclock⟩

end DriveSim
