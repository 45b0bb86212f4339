import DriveSim.App.Threads
import DriveSim.Server.Interleaving

/-!
# The schedules behind the running server

`liveCallbacks` says by a sequence of numbers how the simulation thread gets its turns.
Here every schedule of the three threads gives such a sequence, so that what is shown of
the running server holds whatever the scheduler does.
-/

namespace DriveSim

open Lib

section Schedule

variable {K : Type} [Field K] [LinearOrder K] [FloorRing K] (conv : Conversions K)

def liveMachine : Machine (Interleaved (AppContext K)) AppRequest AppResponse where
  step s r := (((s.locked AppContext.simulationStep).serve conv r).1,
    s.unlock ((s.locked AppContext.simulationStep).serve conv r).2)

theorem serves_live : Serves (liveCallbacks conv) (liveMachine conv).step where
  readCoils := rfl
  readDiscreteInputs := ⟨_, rfl, fun _ _ _ _ _ => rfl⟩
  readHoldingRegisters := ⟨_, rfl, fun _ _ _ _ _ => rfl⟩
  readInputRegisters := ⟨_, rfl, fun _ _ _ _ _ => rfl⟩
  writeSingleCoil := rfl
  writeSingleRegister := ⟨_, rfl, fun _ _ _ _ => rfl⟩
  writeMultipleCoils := rfl
  writeMultipleRegisters := ⟨_, rfl, fun _ _ _ _ _ => rfl⟩

def AppOp.request? : AppOp → Option AppRequest
  | .request r => some r
  | _ => none

def AppResult.response? : AppResult K → Option AppResponse
  | .answered response => some response
  | _ => none

/-- How many simulation steps come before each request. -/
def stepsBefore : List AppOp → Nat → Nat
  | [], _ => 0
  | .simulationStep :: ops, 0 => stepsBefore ops 0 + 1
  | .simulationStep :: ops, i + 1 => stepsBefore ops (i + 1)
  | .heartbeat :: ops, i => stepsBefore ops i
  | .request _ :: _, 0 => 0
  | .request _ :: ops, i + 1 => stepsBefore ops i

theorem live_outputs_step (context : AppContext K) (ops : List AppOp)
    (requests : List AppRequest) :
    (liveMachine conv).outputs ⟨context, stepsBefore (.simulationStep :: ops)⟩ requests =
      (liveMachine conv).outputs ⟨context.simulationStep, stepsBefore ops⟩ requests := by
  cases requests with
  | nil => rfl
  | cons r requests => rfl

/-- A history of the program, told by its requests. -/
theorem live_outputs_eq (context : AppContext K) (ops : List AppOp) :
    (liveMachine conv).outputs ⟨context, stepsBefore ops⟩ (ops.filterMap AppOp.request?) =
      ((programMachine conv).outputs context ops).filterMap AppResult.response? := by
  induction ops generalizing context with
  | nil => rfl
  | cons op ops ih =>
      cases op with
      | simulationStep =>
          rw [show (AppOp.simulationStep :: ops).filterMap AppOp.request? =
            ops.filterMap AppOp.request? from rfl, live_outputs_step]
          exact ih context.simulationStep
      | heartbeat => exact ih context
      | request r => exact congrArg (List.cons _) (ih _)

/-! ## Any schedule -/

def requestsIn (es : List (CallEvent AppThread AppOp (AppResult K))) : List AppRequest :=
  (es.filterMap (CallEvent.op? .server)).filterMap AppOp.request?

def answersIn (es : List (CallEvent AppThread AppOp (AppResult K))) : List AppResponse :=
  (es.filterMap (CallEvent.result? .server)).filterMap AppResult.response?

variable {conv} {context : AppContext K} {es : List (CallEvent AppThread AppOp (AppResult K))}
  {s : Shared (Cell.Value K) AppThread (AppResult K)}

/-- Only the server thread runs callbacks, and only callbacks answer. -/
theorem server_only {log : List (Entry AppThread AppOp (AppResult K))}
    (hresults : log.map Entry.result = (programMachine conv).outputs context (log.map Entry.op))
    (hlogged : ∀ e ∈ log, AppThread.Runs e.thread e.op) :
    (log.filterMap (Entry.op? .server)).filterMap AppOp.request? =
        (log.map Entry.op).filterMap AppOp.request? ∧
      (log.filterMap (Entry.result? .server)).filterMap AppResult.response? =
        (log.map Entry.result).filterMap AppResult.response? := by
  induction log generalizing context with
  | nil => exact ⟨rfl, rfl⟩
  | cons e log ih =>
      obtain ⟨hresult, hrest⟩ := List.cons.inj hresults
      obtain ⟨hop, hlogged⟩ := List.forall_mem_cons.mp hlogged
      obtain ⟨hrequests, hresponses⟩ := ih hrest hlogged
      obtain ⟨thread, op, result⟩ := e
      cases op with
      | simulationStep =>
          cases thread with
          | simulation =>
              obtain rfl : result = .stepped := hresult
              exact ⟨hrequests, hresponses⟩
          | heartbeat | server => exact hop.elim
      | heartbeat =>
          cases thread with
          | heartbeat =>
              obtain rfl : result = .printed context.vehicle.speedMPerS := hresult
              exact ⟨hrequests, hresponses⟩
          | simulation | server => exact hop.elim
      | request r =>
          cases thread with
          | server =>
              obtain rfl : result = .answered (context.serve conv r).1 := hresult
              exact ⟨congrArg (List.cons r) hrequests, congrArg (List.cons _) hresponses⟩
          | simulation | heartbeat => exact hop.elim

/-- Whatever the schedule, the callbacks return what `liveCallbacks` return one after
another, for some turns of the simulation thread. -/
theorem threads_serve_live (h : Scheduled conv context es s) :
    Serves (liveCallbacks conv) (liveMachine conv).step ∧
    ∃ steps, answersIn es <+: (liveMachine conv).outputs ⟨context, steps⟩ (requestsIn es) ∧
      (s.running .server = none →
        answersIn es = (liveMachine conv).outputs ⟨context, steps⟩ (requestsIn es)) := by
  obtain ⟨a, htrace, hsimulates⟩ := h.simulates
  obtain ⟨log, hlog⟩ := htrace.explained
  obtain ⟨hrequests, hresponses⟩ := server_only hlog.results hlog.logged
  have hanswers : (liveMachine conv).outputs ⟨context, stepsBefore (log.map Entry.op)⟩
      ((log.map Entry.op).filterMap AppOp.request?) =
      answersIn es ++ (a.stage .server).withheld.filterMap AppResult.response? := by
    rw [live_outputs_eq, ← hlog.results, ← hresponses, hlog.returned, List.filterMap_append]
    rfl
  have hasked : requestsIn es = (log.map Entry.op).filterMap AppOp.request? ++
      (a.stage .server).pending.filterMap AppOp.request? := by
    rw [requestsIn, hlog.called, List.filterMap_append, hrequests]
  refine ⟨serves_live conv, stepsBefore (log.map Entry.op), ?_, fun hidle => ?_⟩
  · rw [hasked, Machine.outputs_append, hanswers, List.append_assoc]
    exact List.prefix_append _ _
  · have hstage : a.stage .server = .idle := by
      cases hsimulates.threads .server with
      | idle _ hstage => exact hstage
      | before hrunning | inside hrunning | after hrunning => simp [hidle] at hrunning
    rw [hstage, Stage.withheld, List.filterMap_nil, List.append_nil] at hanswers
    rw [hasked, hstage, Stage.pending, List.filterMap_nil, List.append_nil, hanswers]

theorem threads_serve_live_waiting : ∃ steps, answersIn waitingEvents <+:
    (liveMachine Conversions.wrapping).outputs
      ⟨(appInit mainParams 120 : AppContext ℚ), steps⟩
      [.readDiscreteInputs 0 1 fun _ => 0, .writeSingleRegister 0 100] := by
  obtain ⟨s, hscheduled, _⟩ := scheduled_waiting
  obtain ⟨_, steps, hanswers, _⟩ := threads_serve_live hscheduled
  exact ⟨steps, hanswers⟩

/-! ## Operations that no other thread disturbs -/

open Code in
/-- A command within the range of the motor, from a free mutex on. -/
theorem Scheduled.commands {p : VehicleParams K} (h : Scheduled conv context es s)
    (hfree : s.owner = none) {c : Int16}
    (hrunning : s.running .server = some (AppResult.answered <$> AppCode.commandTorque conv c))
    (hparams : s.memory .params = p)
    (hvalid : |c.toInt| ≤ (conv.toInt16 p.motorMaxTorqueNm).toInt) :
    ∃ s', Scheduled conv context (es ++ [.returned .server (.answered (.written .none))]) s' ∧
      s'.owner = none ∧ s'.running .heartbeat = s.running .heartbeat ∧
      s'.memory .speedMPerS = s.memory .speedMPerS := by
  obtain ⟨s₁, h₁, hloaded, hheld, hheartbeat, hmemory⟩ : ∃ s₁, Scheduled conv context es s₁ ∧
      s₁.running .server = some (AppResult.answered <$>
        if !(-(conv.toInt16 (s.memory .params : VehicleParams K).motorMaxTorqueNm).toInt ≤
              c.toInt &&
            c.toInt ≤
              (conv.toInt16 (s.memory .params : VehicleParams K).motorMaxTorqueNm).toInt) then
          store Cell.acceleratorSensorFailure true (unlock (done (.written .illegalDataValue)))
        else
          store Cell.acceleratorSensorFailure false
            (load Cell.params fun (params : VehicleParams K) =>
              store Cell.commandedTorqueNm
                (clamp (c.toInt : K) (-params.motorMaxTorqueNm) params.motorMaxTorqueNm)
                (unlock (done (.written .none))))) ∧
      s₁.owner = some .server ∧ s₁.running .heartbeat = s.running .heartbeat ∧
      s₁.memory = s.memory :=
    ⟨_, (h.quiet (.lock (i := .server) hrunning hfree)).quiet (.load (i := .server) rfl),
      rfl, rfl, rfl, rfl⟩
  have hinside : (-(conv.toInt16 p.motorMaxTorqueNm).toInt ≤ c.toInt &&
      c.toInt ≤ (conv.toInt16 p.motorMaxTorqueNm).toInt) = true := by
    simpa using abs_le.mp hvalid
  rw [hparams, hinside, Bool.not_true, if_neg Bool.false_ne_true] at hloaded
  have h₂ := h₁.quiet (.store (i := .server) hloaded)
  have h₃ := h₂.quiet (.load (i := .server) rfl)
  have h₄ := h₃.quiet (.store (i := .server) rfl)
  have h₅ := h₄.quiet (.unlock (i := .server) rfl (by exact hheld))
  have h₆ := h₅.shows (.ret (i := .server) rfl)
  exact ⟨_, h₆, rfl, hheartbeat, congrFun hmemory _⟩

theorem Scheduled.prints (h : Scheduled conv context es s)
    (hfree : s.owner = none) (hrunning : s.running .heartbeat = some AppCode.heartbeatThread) :
    ∃ s', Scheduled conv context
        (es ++ [.returned .heartbeat (.printed (s.memory .speedMPerS))]) s' ∧
      s'.owner = none := by
  have h₁ := h.quiet (.lock (i := .heartbeat) hrunning hfree)
  have h₂ := h₁.quiet (.load (i := .heartbeat) rfl)
  have h₃ := h₂.quiet (.unlock (i := .heartbeat) rfl rfl)
  have h₄ := h₃.shows (.ret (i := .heartbeat) rfl)
  exact ⟨_, h₄, rfl⟩

end Schedule

/-! ## What the heartbeat prints -/

section Heartbeat

variable {K : Type} [Field K] [LinearOrder K] [FloorRing K] [IsStrictOrderedRing K]
  {conv : Conversions K} {p : VehicleParams K}

theorem KeepsLimits.program_step {context : AppContext K} (h : KeepsLimits p context.vehicle)
    (op : AppOp) : KeepsLimits p ((programMachine conv).step context op).2.vehicle := by
  cases op with
  | simulationStep => exact h.iterate 1
  | heartbeat => exact h
  | request r =>
      obtain hkept | ⟨torqueNm, hset⟩ := context.serve_vehicle conv r
      · exact hkept ▸ h
      · show KeepsLimits p (context.serve conv r).2.vehicle
        rw [hset]
        exact ⟨h.1, h.2.setTorque torqueNm⟩

/-- Whatever the schedule and whatever the clients command, the heartbeat thread prints no
speed above the top speed, and the vehicle has none whenever the mutex is free. -/
theorem threads_print_limited (hp : p.Driveable) (torqueNm : K)
    {es : List (CallEvent AppThread AppOp (AppResult K))}
    {s : Shared (Cell.Value K) AppThread (AppResult K)}
    (h : Scheduled conv (appInit p torqueNm) es s) :
    (∀ speed, .returned .heartbeat (.printed speed) ∈ es → |speed| ≤ p.topSpeed) ∧
      (s.owner = none → |(s.memory .speedMPerS : K)| ≤ p.topSpeed ∧
        |(s.memory .commandedTorqueNm : K)| ≤ p.motorMaxTorqueNm) := by
  have hkeep : ∀ context op, KeepsLimits p context.vehicle →
      KeepsLimits p ((programMachine conv).step context op).2.vehicle :=
    fun context op hcontext => hcontext.program_step op
  have hinitial : KeepsLimits p (appInit p torqueNm).vehicle :=
    ⟨rfl, (Vehicle.withinLimit_init hp).setTorque torqueNm⟩
  obtain ⟨a, htrace, hsimulates⟩ := h.simulates
  obtain ⟨log, hlog⟩ := htrace.explained
  constructor
  · intro speed hprinted
    have hanswer : ∀ (context : AppContext K) op, KeepsLimits p context.vehicle →
        ∀ speed, ((programMachine conv).step context op).1 = .printed speed →
          |speed| ≤ p.topSpeed := by
      intro context op hcontext speed hprint
      cases op with
      | heartbeat =>
          obtain rfl : context.vehicle.speedMPerS = speed := AppResult.printed.inj hprint
          exact hcontext.speed_le
      | simulationStep | request r => cases hprint
    have hanswers := Machine.outputs_invariant hkeep
      (P := fun r => ∀ speed, r = .printed speed → |speed| ≤ p.topSpeed) hanswer hinitial
      (log.map Entry.op)
    exact hanswers _ (hlog.mem_results hprinted) speed rfl
  · intro hfree
    have hstate : KeepsLimits p a.state.vehicle := by
      rw [hlog.state]
      exact Machine.run_invariant hkeep hinitial _
    rw [hsimulates.free hfree]
    exact ⟨hstate.speed_le, hstate.torque_le⟩

def firstSpeed : ℚ := (appInit mainParams 120).simulationStep.vehicle.speedMPerS

/-- A command has to wait for a simulation step, and the heartbeat for both. -/
def drivingEvents : List (CallEvent AppThread AppOp (AppResult ℚ)) :=
  [.called .simulation .simulationStep,
    .called .server (.request (.writeSingleRegister 0 100)),
    .returned .simulation .stepped,
    .called .heartbeat .heartbeat,
    .returned .server (.answered (.written .none)),
    .returned .heartbeat (.printed firstSpeed)]

theorem scheduled_step : ∃ s,
    Scheduled Conversions.wrapping (appInit mainParams 120 : AppContext ℚ)
        (drivingEvents.take 4) s ∧
      s.owner = none ∧ s.memory = (appInit mainParams 120).simulationStep.memory ∧
      s.running .server = some (AppResult.answered <$>
        AppCode.commandTorque Conversions.wrapping 100) ∧
      s.running .heartbeat = some AppCode.heartbeatThread := by
  have h₀ : Scheduled Conversions.wrapping (appInit mainParams 120 : AppContext ℚ) []
    (.start _) := .nil _
  have h₁ := h₀.shows (e := .called .simulation .simulationStep) (.call rfl trivial)
  have h₂ := h₁.quiet (.lock (i := .simulation) rfl rfl)
  have h₃ := h₂.quiet (.load (i := .simulation) rfl)
  have h₄ := h₃.quiet (.load (i := .simulation) rfl)
  have h₅ := h₄.quiet (.load (i := .simulation) rfl)
  have h₆ := h₅.quiet (.store (i := .simulation) rfl)
  have h₇ := h₆.shows (e := .called .server (.request (.writeSingleRegister 0 100)))
    (.call rfl trivial)
  have h₈ := h₇.quiet (.load (i := .simulation) rfl)
  have h₉ := h₈.quiet (.store (i := .simulation) rfl)
  have h₁₀ := h₉.quiet (.unlock (i := .simulation) rfl rfl)
  have h₁₁ := h₁₀.shows (.ret (i := .simulation) rfl)
  have h₁₂ := h₁₁.shows (e := .called .heartbeat .heartbeat) (.call rfl trivial)
  refine ⟨_, h₁₂, rfl, ?_, rfl, rfl⟩
  funext l
  cases l <;> rfl

theorem scheduled_driving : ∃ s,
    Scheduled Conversions.wrapping (appInit mainParams 120 : AppContext ℚ) drivingEvents s ∧
      s.owner = none := by
  obtain ⟨s, hstepped, hfree, hmemory, hserver, hheartbeat⟩ := scheduled_step
  obtain ⟨s', hcommanded, hfree', hkept, hspeed⟩ := hstepped.commands hfree hserver
    (congrFun hmemory .params) (by decide +kernel)
  have hprinted := hcommanded.prints hfree' (hkept.trans hheartbeat)
  rw [hspeed, congrFun hmemory .speedMPerS] at hprinted
  exact hprinted

theorem threads_print_limited_main : ∃ s,
    Scheduled Conversions.wrapping (appInit mainParams 120 : AppContext ℚ) drivingEvents s ∧
      0 < firstSpeed ∧
      (∀ speed, .returned .heartbeat (.printed speed) ∈ drivingEvents →
        |speed| ≤ (mainParams : VehicleParams ℚ).topSpeed) ∧
      |(s.memory .commandedTorqueNm : ℚ)| ≤ 220 := by
  obtain ⟨s, hscheduled, hfree⟩ := scheduled_driving
  obtain ⟨hprinted, hstate⟩ := threads_print_limited driveable_mainParams 120 hscheduled
  exact ⟨s, hscheduled, by decide +kernel, hprinted, (hstate hfree).2⟩

end Heartbeat

end DriveSim
