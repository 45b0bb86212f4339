import DriveSim.App.Planes
import DriveSim.App.RegisterMachine
import DriveSim.Server.Transcript
import DriveSim.Vehicle.SpeedLimit

/-!
# The server beside the simulation thread

The mutex orders the critical sections of the callbacks and the steps of the simulation
thread in some way.  An interleaving says how many steps come before each callback; for
every one of them, and whatever the clients send, the server sends what it would have sent
alone, and what a server on two registers would have sent.
-/

namespace DriveSim

open Lib Program

/-! ## Callbacks that wait for another thread -/

/-- Data shared with a thread that takes `steps i` steps before the `i`-th callback to come. -/
structure Interleaved (σ : Type*) where
  data : σ
  steps : Nat → Nat

section Interleaved

variable {σ τ : Type*} (step : σ → σ)

namespace Interleaved

/-- The data when the next callback gets the mutex. -/
def locked (s : Interleaved σ) : σ := step^[s.steps 0] s.data

def unlock (s : Interleaved σ) (data : σ) : Interleaved σ := ⟨data, fun i => s.steps (i + 1)⟩

def read {α : Type*} (f : UInt16 → UInt16 → Cells α → UInt8 → σ → NmbsError × Cells α × σ)
    (address quantity : UInt16) (out : Cells α) (unitId : UInt8) (s : Interleaved σ) :
    NmbsError × Cells α × Interleaved σ :=
  let (err, out, data) := f address quantity out unitId (s.locked step)
  (err, out, s.unlock data)

def write {ι κ : Type*} (f : ι → κ → UInt8 → σ → NmbsError × σ) (i : ι) (k : κ) (unitId : UInt8)
    (s : Interleaved σ) : NmbsError × Interleaved σ :=
  let (err, data) := f i k unitId (s.locked step)
  (err, s.unlock data)

end Interleaved

open Interleaved

/-- The callbacks of a program whose other thread takes steps in between. -/
def NmbsCallbacks.interleaved (callbacks : NmbsCallbacks σ) : NmbsCallbacks (Interleaved σ) where
  readCoils := callbacks.readCoils.map (read step)
  readDiscreteInputs := callbacks.readDiscreteInputs.map (read step)
  readHoldingRegisters := callbacks.readHoldingRegisters.map (read step)
  readInputRegisters := callbacks.readInputRegisters.map (read step)
  writeSingleCoil := callbacks.writeSingleCoil.map (write step)
  writeSingleRegister := callbacks.writeSingleRegister.map (write step)
  writeMultipleCoils := callbacks.writeMultipleCoils.map fun f address => write step (f address)
  writeMultipleRegisters :=
    callbacks.writeMultipleRegisters.map fun f address => write step (f address)

theorem rel_map {α β γ : Type*} {P : α → β → Prop} {Q : γ → β → Prop} {f : α → γ} {a : Option α}
    {b : Option β} (h : Option.Rel P a b) (hf : ∀ x y, P x y → Q (f x) y) :
    Option.Rel Q (a.map f) b := by
  cases h with
  | none => exact .none
  | some h => exact .some (hf _ _ h)

variable {step} {R : σ → τ → Prop} (hstep : ∀ s t, R s t → R (step s) t)
include hstep

theorem locked_related {s : Interleaved σ} {t : τ} (h : R s.data t) : R (s.locked step) t := by
  unfold locked
  generalize s.steps 0 = n
  induction n with
  | zero => exact h
  | succ n ih =>
      rw [Function.iterate_succ_apply']
      exact hstep _ _ ih

theorem readAgrees_interleaved {α : Type*}
    {f : UInt16 → UInt16 → Cells α → UInt8 → σ → NmbsError × Cells α × σ}
    {g : UInt16 → UInt16 → Cells α → UInt8 → τ → NmbsError × Cells α × τ}
    (h : ReadAgrees R f g) :
    ReadAgrees (fun (s : Interleaved σ) t => R s.data t) (read step f) g :=
  fun address quantity out unitId _ _ hst =>
    h address quantity out unitId _ _ (locked_related hstep hst)

theorem writeAgrees_interleaved {ι κ : Type*} {f : ι → κ → UInt8 → σ → NmbsError × σ}
    {g : ι → κ → UInt8 → τ → NmbsError × τ} (h : WriteAgrees R f g) :
    WriteAgrees (fun (s : Interleaved σ) t => R s.data t) (write step f) g :=
  fun i k unitId _ _ hst => h i k unitId _ _ (locked_related hstep hst)

/-- Steps that the relation does not see do not help to tell callbacks apart. -/
theorem CallbacksAgree.interleaved {f : NmbsCallbacks σ} {g : NmbsCallbacks τ}
    (h : CallbacksAgree R f g) :
    CallbacksAgree (fun (s : Interleaved σ) t => R s.data t) (f.interleaved step) g where
  readCoils := rel_map h.readCoils fun _ _ => readAgrees_interleaved hstep
  readDiscreteInputs := rel_map h.readDiscreteInputs fun _ _ => readAgrees_interleaved hstep
  readHoldingRegisters := rel_map h.readHoldingRegisters fun _ _ => readAgrees_interleaved hstep
  readInputRegisters := rel_map h.readInputRegisters fun _ _ => readAgrees_interleaved hstep
  writeSingleCoil := rel_map h.writeSingleCoil fun _ _ => writeAgrees_interleaved hstep
  writeSingleRegister := rel_map h.writeSingleRegister fun _ _ => writeAgrees_interleaved hstep
  writeMultipleCoils := rel_map h.writeMultipleCoils fun _ _ hfg address =>
    writeAgrees_interleaved hstep (hfg address)
  writeMultipleRegisters := rel_map h.writeMultipleRegisters fun _ _ hfg address =>
    writeAgrees_interleaved hstep (hfg address)

end Interleaved

/-! ## The drive and its clients -/

def Registers.callbacks {K : Type*} [Field K] [LinearOrder K] [FloorRing K] (limit : K)
    (table : Cells UInt16) : NmbsCallbacks (Registers K) where
  readCoils := none
  readDiscreteInputs := some fun address quantity out _ r =>
    let (err, inputs) := readCell address quantity out r.failure.toUInt8
    (err, inputs, r)
  readHoldingRegisters := some fun address quantity out _ r =>
    let (err, registers) := readCell address quantity out (word r.torque)
    (err, registers, r)
  readInputRegisters := some fun address quantity out _ r =>
    let (err, registers) := readTable table address quantity out
    (err, registers, r)
  writeSingleCoil := none
  writeSingleRegister := some fun address value _ r =>
    r.command limit (AppRequest.command? (.writeSingleRegister address value))
  writeMultipleCoils := none
  writeMultipleRegisters := some fun address quantity registers _ r =>
    r.command limit (AppRequest.command? (.writeMultipleRegisters address quantity registers))

/-- The table answers each request the program has a callback for. -/
structure Serves {σ : Type*} (f : NmbsCallbacks σ)
    (answer : σ → AppRequest → AppResponse × σ) : Prop where
  readCoils : f.readCoils = none
  readDiscreteInputs : ∃ read, f.readDiscreteInputs = some read ∧
    ∀ address quantity out unitId s, answer s (.readDiscreteInputs address quantity out) =
      (.bits (read address quantity out unitId s).1 (read address quantity out unitId s).2.1,
        (read address quantity out unitId s).2.2)
  readHoldingRegisters : ∃ read, f.readHoldingRegisters = some read ∧
    ∀ address quantity out unitId s, answer s (.readHoldingRegisters address quantity out) =
      (.registers (read address quantity out unitId s).1 (read address quantity out unitId s).2.1,
        (read address quantity out unitId s).2.2)
  readInputRegisters : ∃ read, f.readInputRegisters = some read ∧
    ∀ address quantity out unitId s, answer s (.readInputRegisters address quantity out) =
      (.registers (read address quantity out unitId s).1 (read address quantity out unitId s).2.1,
        (read address quantity out unitId s).2.2)
  writeSingleCoil : f.writeSingleCoil = none
  writeSingleRegister : ∃ write, f.writeSingleRegister = some write ∧
    ∀ address value unitId s, answer s (.writeSingleRegister address value) =
      (.written (write address value unitId s).1, (write address value unitId s).2)
  writeMultipleCoils : f.writeMultipleCoils = none
  writeMultipleRegisters : ∃ write, f.writeMultipleRegisters = some write ∧
    ∀ address quantity registers unitId s,
      answer s (.writeMultipleRegisters address quantity registers) =
        (.written (write address quantity registers unitId s).1,
          (write address quantity registers unitId s).2)

section Agreement

variable {σ τ : Type*} {R : σ → τ → Prop} {answer : σ → AppRequest → AppResponse × σ}
  {answer' : τ → AppRequest → AppResponse × τ} {f : NmbsCallbacks σ} {g : NmbsCallbacks τ}

/-- Machines that answer alike make tables that cannot be told apart. -/
theorem Serves.agree (hf : Serves f answer) (hg : Serves g answer')
    (h : ∀ s t q, R s t → (answer s q).1 = (answer' t q).1 ∧ R (answer s q).2 (answer' t q).2) :
    CallbacksAgree R f g where
  readCoils := by
    rw [hf.readCoils, hg.readCoils]
    exact .none
  readDiscreteInputs := by
    obtain ⟨read, hread, hanswer⟩ := hf.readDiscreteInputs
    obtain ⟨read', hread', hanswer'⟩ := hg.readDiscreteInputs
    rw [hread, hread']
    refine .some fun address quantity out unitId s t hst => ?_
    have hsame := h s t (.readDiscreteInputs address quantity out) hst
    rw [hanswer _ _ _ unitId, hanswer' _ _ _ unitId] at hsame
    exact ⟨(AppResponse.bits.inj hsame.1).1, (AppResponse.bits.inj hsame.1).2, hsame.2⟩
  readHoldingRegisters := by
    obtain ⟨read, hread, hanswer⟩ := hf.readHoldingRegisters
    obtain ⟨read', hread', hanswer'⟩ := hg.readHoldingRegisters
    rw [hread, hread']
    refine .some fun address quantity out unitId s t hst => ?_
    have hsame := h s t (.readHoldingRegisters address quantity out) hst
    rw [hanswer _ _ _ unitId, hanswer' _ _ _ unitId] at hsame
    exact ⟨(AppResponse.registers.inj hsame.1).1, (AppResponse.registers.inj hsame.1).2, hsame.2⟩
  readInputRegisters := by
    obtain ⟨read, hread, hanswer⟩ := hf.readInputRegisters
    obtain ⟨read', hread', hanswer'⟩ := hg.readInputRegisters
    rw [hread, hread']
    refine .some fun address quantity out unitId s t hst => ?_
    have hsame := h s t (.readInputRegisters address quantity out) hst
    rw [hanswer _ _ _ unitId, hanswer' _ _ _ unitId] at hsame
    exact ⟨(AppResponse.registers.inj hsame.1).1, (AppResponse.registers.inj hsame.1).2, hsame.2⟩
  writeSingleCoil := by
    rw [hf.writeSingleCoil, hg.writeSingleCoil]
    exact .none
  writeSingleRegister := by
    obtain ⟨write, hwrite, hanswer⟩ := hf.writeSingleRegister
    obtain ⟨write', hwrite', hanswer'⟩ := hg.writeSingleRegister
    rw [hwrite, hwrite']
    refine .some fun address value unitId s t hst => ?_
    have hsame := h s t (.writeSingleRegister address value) hst
    rw [hanswer _ _ unitId, hanswer' _ _ unitId] at hsame
    exact ⟨AppResponse.written.inj hsame.1, hsame.2⟩
  writeMultipleCoils := by
    rw [hf.writeMultipleCoils, hg.writeMultipleCoils]
    exact .none
  writeMultipleRegisters := by
    obtain ⟨write, hwrite, hanswer⟩ := hf.writeMultipleRegisters
    obtain ⟨write', hwrite', hanswer'⟩ := hg.writeMultipleRegisters
    rw [hwrite, hwrite']
    refine .some fun address quantity registers unitId s t hst => ?_
    have hsame := h s t (.writeMultipleRegisters address quantity registers) hst
    rw [hanswer _ _ _ unitId, hanswer' _ _ _ unitId] at hsame
    exact ⟨AppResponse.written.inj hsame.1, hsame.2⟩

end Agreement

section Application

variable {K : Type*} [Field K] [LinearOrder K] [FloorRing K] (conv : Conversions K)

theorem serves_app : Serves (appCallbacks conv) (AppContext.serve conv) where
  readCoils := rfl
  readDiscreteInputs := ⟨_, rfl, fun _ _ _ _ _ => rfl⟩
  readHoldingRegisters := ⟨_, rfl, fun _ _ _ _ _ => rfl⟩
  readInputRegisters := ⟨_, rfl, fun _ _ _ _ _ => rfl⟩
  writeSingleCoil := rfl
  writeSingleRegister := ⟨_, rfl, fun _ _ _ _ => rfl⟩
  writeMultipleCoils := rfl
  writeMultipleRegisters := ⟨_, rfl, fun _ _ _ _ _ => rfl⟩

theorem serves_registers (limit : K) (table : Cells UInt16) :
    Serves (Registers.callbacks limit table) (Registers.answer limit table) where
  readCoils := rfl
  readDiscreteInputs := ⟨_, rfl, fun _ _ _ _ _ => rfl⟩
  readHoldingRegisters := ⟨_, rfl, fun _ _ _ _ _ => rfl⟩
  readInputRegisters := ⟨_, rfl, fun _ _ _ _ _ => rfl⟩
  writeSingleCoil := rfl
  writeSingleRegister := ⟨_, rfl, fun _ _ _ _ => rfl⟩
  writeMultipleCoils := rfl
  writeMultipleRegisters := ⟨_, rfl, fun _ _ _ _ _ => rfl⟩

/-- The callbacks of the running program, whose simulation thread goes on meanwhile. -/
def liveCallbacks : NmbsCallbacks (Interleaved (AppContext K)) :=
  (appCallbacks conv).interleaved AppContext.simulationStep

theorem agree_live :
    CallbacksAgree (fun (s : Interleaved (AppContext K)) t => SameForClients s.data t)
      (liveCallbacks conv) (appCallbacks conv) := by
  have hserve := (serves_app conv).agree (serves_app conv)
    fun s t q (h : SameForClients s t) => h.serve conv q
  exact hserve.interleaved fun _ _ h => ⟨h.params_eq, h.torque_eq, h.failure_eq⟩

/-- Whatever its clients send, and however the two threads take turns, the server answers,
calls its sockets and ends as it would with the simulation thread stopped. -/
theorem interleaving_invisible (config : ModbusTcpConfig) (script : SocketScript)
    (context : AppContext K) (steps : Nat → Nat) (fuel : Nat) :
    transcript fuel config (liveCallbacks conv) script.accepts ⟨context, steps⟩ =
        transcript fuel config (appCallbacks conv) script.accepts context ∧
      Alike (SameCalls fun s t => SameForClients s.data t)
        (modbusTcpRun fuel config (liveCallbacks conv) script ⟨⟨context, steps⟩, []⟩)
        (modbusTcpRun fuel config (appCallbacks conv) script ⟨context, []⟩) := by
  have hself : SameForClients context context := ⟨rfl, rfl, rfl⟩
  constructor
  · exact transcript_eq config (agree_live conv) hself script.accepts fuel
  · exact inStep_modbusTcpRun config (agree_live conv) script fuel _ _ ⟨rfl, hself⟩

variable [IsStrictOrderedRing K] {p : VehicleParams K}

theorem agree_registers (hnonneg : 0 ≤ p.motorMaxTorqueNm) (hlt : p.motorMaxTorqueNm < 32768) :
    CallbacksAgree (fun (s : Interleaved (AppContext K)) r => Holds p s.data r)
      (liveCallbacks conv) (Registers.callbacks p.motorMaxTorqueNm (inputTable conv p)) := by
  have hserve := (serves_app conv).agree
    (serves_registers p.motorMaxTorqueNm (inputTable conv p))
    fun s r q (h : Holds p s r) => h.serve conv hnonneg hlt q
  exact hserve.interleaved fun _ _ h => ⟨h.params_eq, h.torque_eq, h.failure_eq, h.torque_le⟩

/-- On the wire the running program is a server of two registers and a table. -/
theorem live_refines_registers (hnonneg : 0 ≤ p.motorMaxTorqueNm)
    (hlt : p.motorMaxTorqueNm < 32768) (config : ModbusTcpConfig) (script : SocketScript)
    (torqueNm : K) (steps : Nat → Nat) (fuel : Nat) :
    let initial : Registers K :=
      ⟨clamp torqueNm (-p.motorMaxTorqueNm) p.motorMaxTorqueNm, false⟩
    let registers := Registers.callbacks p.motorMaxTorqueNm (inputTable conv p)
    transcript fuel config (liveCallbacks conv) script.accepts ⟨appInit p torqueNm, steps⟩ =
        transcript fuel config registers script.accepts initial ∧
      Alike (SameCalls fun s r => Holds p s.data r)
        (modbusTcpRun fuel config (liveCallbacks conv) script ⟨⟨appInit p torqueNm, steps⟩, []⟩)
        (modbusTcpRun fuel config registers script ⟨initial, []⟩) := by
  have hagree := agree_registers conv hnonneg hlt
  have hinitial := Holds.initial hnonneg torqueNm
  constructor
  · exact transcript_eq config hagree hinitial script.accepts fuel
  · exact inStep_modbusTcpRun config hagree script fuel _ _ ⟨rfl, hinitial⟩

/-- The client of `friendlyScript` gets its echo while the drive moves on. -/
theorem live_refines_registers_main :
    transcript 6 modbusTcpConfigInit (liveCallbacks Conversions.wrapping)
      friendlyScript.accepts ⟨appInit (mainParams : VehicleParams ℚ) 0, fun i => 50 * i + 7⟩ =
      [[[0, 1, 0, 0, 0, 6, 1, 6, 0, 0, 0, 100]], []] := by
  have hlive := live_refines_registers Conversions.wrapping (p := (mainParams : VehicleParams ℚ))
    (by decide +kernel) (by decide +kernel) modbusTcpConfigInit friendlyScript 0
    (fun i => 50 * i + 7) 6
  rw [hlive.1]
  decide +kernel

def KeepsLimits (p : VehicleParams K) (v : Vehicle K) : Prop := v.params = p ∧ v.WithinLimit

def VehicleParams.topSpeed (p : VehicleParams K) : K := p.speedLimit + p.fullTorqueGain

omit [FloorRing K] [IsStrictOrderedRing K] in
theorem KeepsLimits.speed_le {v : Vehicle K} (h : KeepsLimits p v) :
    |v.speedMPerS| ≤ p.topSpeed := by
  obtain ⟨rfl, hlimit⟩ := h
  exact hlimit.speed

omit [FloorRing K] [IsStrictOrderedRing K] in
theorem KeepsLimits.torque_le {v : Vehicle K} (h : KeepsLimits p v) :
    |v.commandedTorqueNm| ≤ p.motorMaxTorqueNm := by
  obtain ⟨rfl, hlimit⟩ := h
  exact hlimit.torque

omit [FloorRing K] in
theorem KeepsLimits.iterate {v : Vehicle K} (h : KeepsLimits p v) (n : Nat) :
    KeepsLimits p (Vehicle.step50hz^[n] v) := by
  induction n with
  | zero => exact h
  | succ n ih =>
      rw [Function.iterate_succ_apply']
      exact ⟨ih.1, ih.2.step50hz⟩

theorem agree_limited :
    CallbacksAgree (fun (s : Interleaved (AppContext K)) t =>
      KeepsLimits p s.data.vehicle ∧ SameForClients s.data t) (liveCallbacks conv)
      (appCallbacks conv) := by
  have hserve : ∀ (s t : AppContext K) q, KeepsLimits p s.vehicle ∧ SameForClients s t →
      (s.serve conv q).1 = (t.serve conv q).1 ∧ KeepsLimits p (s.serve conv q).2.vehicle ∧
        SameForClients (s.serve conv q).2 (t.serve conv q).2 := by
    rintro s t q ⟨⟨hparams, hlimit⟩, hsame⟩
    obtain ⟨hanswer, hnext⟩ := hsame.serve conv q
    refine ⟨hanswer, ?_, hnext⟩
    obtain hkept | ⟨torqueNm, hset⟩ := s.serve_vehicle conv q
    · rw [hkept]
      exact ⟨hparams, hlimit⟩
    · rw [hset]
      exact ⟨hparams, hlimit.setTorque torqueNm⟩
  have hagree := (serves_app conv).agree (serves_app conv) hserve
  exact hagree.interleaved fun _ _ h =>
    ⟨⟨h.1.1, h.1.2.step50hz⟩, h.2.params_eq, h.2.torque_eq, h.2.failure_eq⟩

/-- Whenever the running server polls, and for as long as it waits then, the torque in
force is within the motor's range and the speed within its limit and one full step. -/
theorem live_speed_limited (hp : p.Driveable) (config : ModbusTcpConfig) (accepts : List Accept)
    (torqueNm : K) (steps : Nat → Nat) {st : Nmbs (Interleaved (AppContext K))}
    (hreached : PollReached config (liveCallbacks conv) accepts ⟨appInit p torqueNm, steps⟩ st)
    (n : Nat) :
    (Vehicle.step50hz^[n] st.arg.data.vehicle).params = p ∧
      |(Vehicle.step50hz^[n] st.arg.data.vehicle).commandedTorqueNm| ≤ p.motorMaxTorqueNm ∧
      |(Vehicle.step50hz^[n] st.arg.data.vehicle).speedMPerS| ≤
        p.speedLimit + p.fullTorqueGain := by
  have hinitial : KeepsLimits p (appInit p torqueNm).vehicle :=
    ⟨rfl, (Vehicle.withinLimit_init hp).setTorque torqueNm⟩
  obtain ⟨_, _, hpaired⟩ := pollReached_alike config (agree_limited conv)
    (t := appInit p torqueNm) ⟨hinitial, rfl, rfl, rfl⟩ hreached
  have hlimits := hpaired.arg.1.iterate n
  exact ⟨hlimits.1, hlimits.torque_le, hlimits.speed_le⟩

/-- The session with the first client of `friendlyScript`, on a vehicle that drives off
meanwhile. -/
def drivingSession : Nmbs (Interleaved (AppContext ℚ)) :=
  sessionStart modbusTcpConfigInit (liveCallbacks Conversions.wrapping)
    ⟨appInit mainParams 80, fun i => 50 * i + 7⟩
    (clientOf [0, 1, 0] [0, 0, 6, 1, 6, 0, 0, 0, 100] 400 2500).conn

/-- The command is served while the vehicle moves, and ten seconds later the limit holds. -/
theorem live_speed_limited_main : ∃ st, nmbsServerPoll drivingSession = .ok (.none, st) ∧
    st.arg.data.vehicle.commandedTorqueNm = 100 ∧ 0 < st.arg.data.vehicle.speedMPerS ∧
    |(Vehicle.step50hz^[500] st.arg.data.vehicle).speedMPerS| ≤
      mainParams.speedLimit + mainParams.fullTorqueGain := by
  have hserved : (nmbsServerPoll drivingSession).toOption.map (fun r =>
      (r.1, r.2.arg.data.vehicle.commandedTorqueNm,
        decide (0 < r.2.arg.data.vehicle.speedMPerS))) = some (.none, 100, true) := by
    decide +kernel
  obtain ⟨⟨err, st⟩, hpoll, hstate⟩ := exists_ok_of_map hserved
  simp only [Prod.mk.injEq, decide_eq_true_eq] at hstate
  obtain ⟨rfl, htorque, hmoves⟩ := hstate
  exact ⟨st, hpoll, htorque, hmoves, (live_speed_limited Conversions.wrapping
    driveable_mainParams modbusTcpConfigInit friendlyScript.accepts 80 (fun i => 50 * i + 7)
    (.now rfl (.next hpoll (.here st))) 500).2.2⟩

end Application

end DriveSim
