import DriveSim.Server.Dialogue
import DriveSim.Vehicle.StoppingDistance

/-!
# A client stops the vehicle

The commands that arrive on the wire and the drive that obeys them, in one statement: after
clients have talked to the server in any number of connections, and the last torque it
accepted is zero, the vehicle slows down to a micrometre a second or less in a time that
depends on the parameters alone.  It need not come to rest: what is left of its speed adds
to the way it needs, a little with every step.
-/

namespace DriveSim

open Lib Program Nmbs

section Stop

variable {K : Type*} [Field K] [LinearOrder K] [IsStrictOrderedRing K] {p : VehicleParams K}

/-- From any speed below the top speed the vehicle coasts down to the standstill band. -/
theorem KeepsLimits.coasts_down {v : Vehicle K} (h : KeepsLimits p v)
    (hrolling : 0 < p.rollingResistanceCoefficient) (htorque : v.commandedTorqueNm = 0) (n : ℕ) :
    (50 * p.topSpeed / (9.81 * p.rollingResistanceCoefficient) ≤ n →
      |(Vehicle.step50hz^[n] v).speedMPerS| ≤ 1e-6) ∧
    |(Vehicle.step50hz^[n] v).distanceM - v.distanceM| ≤
      p.topSpeed ^ 2 / (2 * (9.81 * p.rollingResistanceCoefficient)) +
        9.81 * p.rollingResistanceCoefficient / 20000 + n * (1e-6 / 50) := by
  obtain ⟨rfl, hlimit⟩ := h
  have hp : v.params.Resistive := hlimit.driveable.toResistive
  have hspeed := KeepsLimits.speed_le ⟨rfl, hlimit⟩
  constructor
  · intro hn
    have hlost : |v.speedMPerS| - n * v.params.coastingLoss ≤ 0 := by
      rw [div_le_iff₀ (by positivity)] at hn
      rw [VehicleParams.coastingLoss, gravityMPerS2, dt_eq]
      linarith
    calc |(Vehicle.step50hz^[n] v).speedMPerS|
        ≤ max minSpeedEpsilon (|v.speedMPerS| - n * v.params.coastingLoss) :=
          Vehicle.coasting_speed_le hp htorque n
      _ ≤ 1e-6 := max_le le_rfl (hlost.trans minSpeedEpsilon_pos.le)
  · have hd : 0 < v.params.deceleration := mul_pos gravityMPerS2_pos hrolling
    have hreach : coastingReach v.params.deceleration v.speedMPerS ≤
        v.params.topSpeed ^ 2 / (2 * v.params.deceleration) := by
      rw [coastingReach_eq, ← sq_abs]
      gcongr
    calc |(Vehicle.step50hz^[n] v).distanceM - v.distanceM|
        ≤ coastingReach v.params.deceleration v.speedMPerS + v.params.deceleration / 20000 +
            n * (minSpeedEpsilon / 50) := Vehicle.abs_coasting_distance_le hp hd htorque n
      _ ≤ v.params.topSpeed ^ 2 / (2 * v.params.deceleration) + v.params.deceleration / 20000 +
            n * (minSpeedEpsilon / 50) := by gcongr

end Stop

section Live

variable {K : Type*} [Field K] [LinearOrder K] [FloorRing K] [IsStrictOrderedRing K]
  (conv : Conversions K) {p : VehicleParams K}

theorem live_keeps_limits (hp : p.Driveable) (config : ModbusTcpConfig) (script : SocketScript)
    (fuel : Nat) (torqueNm : K) (steps : Nat → Nat) {exit : Exit}
    {server : Server (Interleaved (AppContext K))}
    (hrun : modbusTcpRun fuel config (liveCallbacks conv) script
      ⟨⟨appInit p torqueNm, steps⟩, []⟩ = .ok (exit, server)) :
    KeepsLimits p server.userData.data.vehicle := by
  have hinitial : KeepsLimits p (appInit p torqueNm).vehicle :=
    ⟨rfl, (Vehicle.withinLimit_init hp).setTorque torqueNm⟩
  obtain ⟨_, _, hsame⟩ := (inStep_modbusTcpRun config (agree_limited conv) script fuel).returned
    (t := ⟨appInit p torqueNm, []⟩) ⟨rfl, hinitial, rfl, rfl, rfl⟩ hrun
  exact hsame.userData.1

/-- If the last torque the clients had accepted is zero, the vehicle slows down to the
standstill band from whatever speed they had brought it to. -/
theorem stop_command_stops (hp : p.Driveable) (hlt : p.motorMaxTorqueNm < 32768)
    (hrolling : 0 < p.rollingResistanceCoefficient) (config : ModbusTcpConfig)
    (hconfig : 0 ≤ config.byteTimeoutMs) (script : SocketScript) (hsetup : script.SetsUp)
    {dialogues : List (List Call)}
    (hmakes : List.Forall₂ (Makes config) script.accepts dialogues) (fuel : Nat)
    (hfuel : ∀ accept ∈ script.accepts, accept.conn.weight < fuel) (torqueNm : K)
    (steps : Nat → Nat)
    (hstop : torqueAfter p.motorMaxTorqueNm
      (clamp torqueNm (-p.motorMaxTorqueNm) p.motorMaxTorqueNm)
      (dialogues.flatten.map (·.query.request)) = 0) :
    ∃ server, modbusTcpRun fuel config (liveCallbacks conv) script
        ⟨⟨appInit p torqueNm, steps⟩, []⟩ = .ok (.accepting, server) ∧
      ∀ n : ℕ, (50 * p.topSpeed / (9.81 * p.rollingResistanceCoefficient) ≤ n →
          |(Vehicle.step50hz^[n] server.userData.data.vehicle).speedMPerS| ≤ 1e-6) ∧
        |(Vehicle.step50hz^[n] server.userData.data.vehicle).distanceM -
            server.userData.data.vehicle.distanceM| ≤
          p.topSpeed ^ 2 / (2 * (9.81 * p.rollingResistanceCoefficient)) +
            9.81 * p.rollingResistanceCoefficient / 20000 + n * (1e-6 / 50) := by
  obtain ⟨server, hrun, hholds⟩ := live_holds_commands conv hp.maxTorque_nonneg hlt config hconfig
    script hsetup hmakes fuel hfuel torqueNm steps
  have hlimits := live_keeps_limits conv hp config script fuel torqueNm steps hrun
  have htorque : server.userData.data.vehicle.commandedTorqueNm = 0 := hholds.torque_eq.trans hstop
  exact ⟨server, hrun, hlimits.coasts_down hrolling htorque⟩

/-- The first client drives off, the second one stops; its last command is refused. -/
def stoppingCallers : List (List (Nat × Call)) :=
  [[(2500, ⟨1, 1, .writeSingleRegister 0 200, trivial⟩)],
    [(40, ⟨2, 1, .writeMultipleRegisters 0 [0], by decide⟩),
      (1300, ⟨3, 1, .writeSingleRegister 0 221, trivial⟩)]]

theorem stop_command_stops_main :
    ∃ server, modbusTcpRun 9000 modbusTcpConfigInit (liveCallbacks Conversions.wrapping)
        (scriptOf (stoppingCallers.map (callerOf · 700)))
        ⟨⟨appInit (mainParams : VehicleParams ℚ) 120, fun i => 50 * i + 7⟩, []⟩ =
        .ok (.accepting, server) ∧
      |(Vehicle.step50hz^[14000] server.userData.data.vehicle).speedMPerS| ≤ 1e-6 := by
  have hp : (mainParams : VehicleParams ℚ).Driveable := driveable_mainParams
  have hmakes : List.Forall₂ (Makes modbusTcpConfigInit) (stoppingCallers.map (callerOf · 700))
      (stoppingCallers.map (List.map Prod.snd)) :=
    .cons (makes_callerOf _ _ 700) (.cons (makes_callerOf _ _ 700) .nil)
  obtain ⟨server, hrun, hstopped⟩ := stop_command_stops Conversions.wrapping hp
    (by decide +kernel) (by decide +kernel) modbusTcpConfigInit (by decide)
    (scriptOf (stoppingCallers.map (callerOf · 700))) ⟨rfl, rfl, rfl, rfl⟩ hmakes 9000
    (by decide +kernel) 120 (fun i => 50 * i + 7) (by decide +kernel)
  exact ⟨server, hrun, (hstopped 14000).1 (by decide +kernel)⟩

end Live

end DriveSim
