import DriveSim.App.Machine
import Mathlib.Data.Rat.Floor
import Mathlib.Tactic.IntervalCases

/-!
# The application as two registers

Seen by its clients the application is two cells, the torque in force and the failure
flag, beside a fixed table of parameters.  The abstract machine below says so, the
application refines it, and the cells after a history are read off that history.
-/

namespace DriveSim

open Lib

structure Registers (K : Type*) where
  torque : K
  failure : Bool

namespace Registers

variable {K : Type*} [Field K] [LinearOrder K] [FloorRing K]

def command (limit : K) (r : Registers K) : Option Int16 → NmbsError × Registers K
  | none => (.illegalDataAddress, r)
  | some c =>
      if |(c.toInt : K)| ≤ limit then (.none, ⟨c.toInt, false⟩)
      else (.illegalDataValue, { r with failure := true })

def word (torque : K) : UInt16 := (Int16.ofInt (truncate torque)).toUInt16

def readCell {α : Type*} (address quantity : UInt16) (out : Cells α) (x : α) :
    NmbsError × Cells α :=
  if address = 0 ∧ quantity = 1 then (.none, out.set 0 x) else (.illegalDataAddress, out)

def readTable (table : Cells UInt16) (address quantity : UInt16) (out : Cells UInt16) :
    NmbsError × Cells UInt16 :=
  if quantity < 1 then (.illegalDataValue, out)
  else if paramCount < address.toNat + quantity.toNat then (.illegalDataAddress, out)
  else (.none, fun i => if i < quantity.toNat then table (address.toNat + i) else out i)

def answer (limit : K) (table : Cells UInt16) (r : Registers K) :
    AppRequest → AppResponse × Registers K
  | .readDiscreteInputs address quantity out =>
      let (err, inputs) := readCell address quantity out r.failure.toUInt8
      (.bits err inputs, r)
  | .readHoldingRegisters address quantity out =>
      let (err, registers) := readCell address quantity out (word r.torque)
      (.registers err registers, r)
  | .readInputRegisters address quantity out =>
      let (err, registers) := readTable table address quantity out
      (.registers err registers, r)
  | .writeSingleRegister address value =>
      let (err, next) := r.command limit (AppRequest.command? (.writeSingleRegister address value))
      (.written err, next)
  | .writeMultipleRegisters address quantity registers =>
      let (err, next) :=
        r.command limit (AppRequest.command? (.writeMultipleRegisters address quantity registers))
      (.written err, next)

/-- The machine of the two cells; it knows nothing of speed and distance. -/
def machine (limit : K) (table : Cells UInt16) :
    Machine (Registers K) AppRequest AppResponse where
  step := answer limit table

theorem machine_step (limit : K) (table : Cells UInt16) (r : Registers K) (q : AppRequest) :
    (machine limit table).step r q = r.answer limit table q := rfl

theorem answer_write (limit : K) (table : Cells UInt16) (r : Registers K) {q : AppRequest}
    (hwrite : q.isRead = false) :
    r.answer limit table q =
      (.written (r.command limit q.command?).1, (r.command limit q.command?).2) := by
  cases q with
  | readDiscreteInputs address quantity out => simp [AppRequest.isRead] at hwrite
  | readHoldingRegisters address quantity out => simp [AppRequest.isRead] at hwrite
  | readInputRegisters address quantity out => simp [AppRequest.isRead] at hwrite
  | writeSingleRegister address value => rfl
  | writeMultipleRegisters address quantity registers => rfl

theorem answer_read (limit : K) (table : Cells UInt16) (r : Registers K) {q : AppRequest}
    (hread : q.isRead = true) : (r.answer limit table q).2 = r := by
  cases q with
  | readDiscreteInputs address quantity out => rfl
  | readHoldingRegisters address quantity out => rfl
  | readInputRegisters address quantity out => rfl
  | writeSingleRegister address value => simp [AppRequest.isRead] at hread
  | writeMultipleRegisters address quantity registers => simp [AppRequest.isRead] at hread

theorem command?_of_isRead {q : AppRequest} (hread : q.isRead = true) :
    q.command? = none := by
  cases q <;> first | rfl | simp [AppRequest.isRead] at hread

end Registers

/-! ## The cells after a history -/

section History

variable {K : Type*} [Field K] [LinearOrder K] [FloorRing K] (limit : K)

/-- The commands of the writes in a history that addressed the torque register. -/
def commandsOf (requests : List AppRequest) : List Int16 :=
  requests.filterMap AppRequest.command?

def withinLimit (c : Int16) : Bool := |(c.toInt : K)| ≤ limit

/-- The most recently accepted command, or the initial torque before the first one. -/
def torqueAfter (initial : K) (requests : List AppRequest) : K :=
  (((commandsOf requests).filter (withinLimit limit)).getLast?.map
    fun c => (c.toInt : K)).getD initial

/-- The most recent command was refused. -/
def failureAfter (requests : List AppRequest) : Bool :=
  ((commandsOf requests).getLast?.map fun c => !withinLimit limit c).getD false

namespace Registers

theorem run_eq_after (table : Cells UInt16) (initial : K) (requests : List AppRequest) :
    (machine limit table).run ⟨initial, false⟩ requests =
      ⟨torqueAfter limit initial requests, failureAfter limit requests⟩ := by
  induction requests using List.reverseRecOn with
  | nil => rfl
  | append_singleton requests q ih =>
      rw [Machine.run_append, ih, Machine.run_cons, Machine.run_nil]
      cases hread : q.isRead with
      | true =>
          have hnone := command?_of_isRead hread
          rw [machine_step, answer_read limit table _ hread]
          simp [torqueAfter, failureAfter, commandsOf, hnone]
      | false =>
          rw [machine_step, answer_write limit table _ hread]
          cases hc : q.command? with
          | none => simp [command, torqueAfter, failureAfter, commandsOf, hc]
          | some c =>
              by_cases hok : |(c.toInt : K)| ≤ limit
              · simp [command, torqueAfter, failureAfter, commandsOf, withinLimit, hc, hok]
              · simp [command, torqueAfter, failureAfter, commandsOf, withinLimit, hc, hok]

end Registers

end History

/-! ## The application refines the registers -/

structure Holds {K : Type*} [Field K] [LinearOrder K] (p : VehicleParams K)
    (context : AppContext K) (r : Registers K) : Prop where
  params_eq : context.vehicle.params = p
  torque_eq : context.vehicle.commandedTorqueNm = r.torque
  failure_eq : context.acceleratorSensorFailure = r.failure
  torque_le : |r.torque| ≤ p.motorMaxTorqueNm

theorem Holds.initial {K : Type*} [Field K] [LinearOrder K] [IsStrictOrderedRing K]
    {p : VehicleParams K} (hnonneg : 0 ≤ p.motorMaxTorqueNm) (torqueNm : K) :
    Holds p (appInit p torqueNm)
      ⟨clamp torqueNm (-p.motorMaxTorqueNm) p.motorMaxTorqueNm, false⟩ where
  params_eq := rfl
  torque_eq := rfl
  failure_eq := rfl
  torque_le := abs_clamp_le hnonneg torqueNm

section Refinement

variable {K : Type*} [Field K] [LinearOrder K] [FloorRing K] (conv : Conversions K)

def inputTable (p : VehicleParams K) : Cells UInt16 := fun i => (inputRegister conv p i).getD 0

theorem inputRegister_eq_inputTable (p : VehicleParams K) {i : Nat} (hi : i < paramCount) :
    inputRegister conv p i = some (inputTable conv p i) := by
  have hsome : (inputRegister conv p i).isSome := by
    unfold paramCount at hi
    interval_cases i <;> rfl
  rw [inputTable, ← Option.some_get hsome, Option.getD_some]

theorem readInputRegistersFrom_eq (p : VehicleParams K) (address i remaining : Nat)
    (out : Cells UInt16) (hfit : address + i + remaining ≤ paramCount) :
    readInputRegistersFrom conv p address i out remaining =
      (.none, fun j => if i ≤ j ∧ j < i + remaining then inputTable conv p (address + j)
        else out j) := by
  induction remaining generalizing i out with
  | zero =>
      have hempty : ∀ j, ¬ (i ≤ j ∧ j < i) := by omega
      simp [readInputRegistersFrom, hempty]
  | succ remaining ih =>
      have hword := inputRegister_eq_inputTable conv p (i := address + i) (by omega)
      rw [readInputRegistersFrom, hword]
      simp only
      rw [ih (i + 1) _ (by omega)]
      congr 1
      ext j : 1
      rcases eq_or_ne j i with rfl | hne
      · simp
      · rw [Cells.set_of_ne out hne]
        have hrange : (i + 1 ≤ j ∧ j < i + 1 + remaining) ↔ (i ≤ j ∧ j < i + (remaining + 1)) := by
          omega
        simp only [hrange]

theorem readInputRegisters_eq (address quantity : UInt16) (out : Cells UInt16)
    (context : AppContext K) :
    readInputRegisters conv address quantity out context =
      let (err, registers) := Registers.readTable (inputTable conv context.vehicle.params)
        address quantity out
      (err, registers, context) := by
  unfold readInputRegisters Registers.readTable
  split_ifs with hpos hfit
  · rfl
  · rfl
  · rw [readInputRegistersFrom_eq conv _ _ _ _ _ (by omega)]
    simp

variable [IsStrictOrderedRing K]

/-- The truncated limit admits the same integers as the limit itself. -/
theorem isTorqueCommandValid_iff (context : AppContext K)
    (hnonneg : 0 ≤ context.vehicle.params.motorMaxTorqueNm)
    (hlt : context.vehicle.params.motorMaxTorqueNm < 32768) (c : Int16) :
    isTorqueCommandValid conv context c = true ↔
      |(c.toInt : K)| ≤ context.vehicle.params.motorMaxTorqueNm := by
  have hlimit : (conv.toInt16 context.vehicle.params.motorMaxTorqueNm).toInt =
      truncate context.vehicle.params.motorMaxTorqueNm :=
    conv.toInt16_of_abs_lt (by rwa [abs_of_nonneg hnonneg])
  have hneg := intCast_le_iff_le_truncate hnonneg (-c.toInt)
  have hpos := intCast_le_iff_le_truncate hnonneg c.toInt
  rw [isTorqueCommandValid, hlimit, Bool.and_eq_true, decide_eq_true_eq, decide_eq_true_eq,
    abs_le', hpos, ← Int.cast_neg, hneg, neg_le, and_comm]

variable {p : VehicleParams K} (hnonneg : 0 ≤ p.motorMaxTorqueNm)
  (hlt : p.motorMaxTorqueNm < 32768)

theorem Holds.word_eq {context : AppContext K} {r : Registers K} (h : Holds p context r)
    (hlt : p.motorMaxTorqueNm < 32768) :
    (conv.toInt16 context.vehicle.commandedTorqueNm).toUInt16 = Registers.word r.torque := by
  have hrange : |r.torque| < 32768 := h.torque_le.trans_lt hlt
  rw [h.torque_eq, Registers.word, ← conv.toInt16_of_abs_lt hrange, Int16.ofInt_toInt]

include hnonneg hlt

theorem Holds.command {context : AppContext K} {r : Registers K} (h : Holds p context r)
    (c : Option Int16) :
    (context.command conv c).1 = (r.command p.motorMaxTorqueNm c).1 ∧
      Holds p (context.command conv c).2 (r.command p.motorMaxTorqueNm c).2 := by
  cases c with
  | none => exact ⟨rfl, h⟩
  | some c =>
      have hvalid := isTorqueCommandValid_iff conv context
        (by rwa [h.params_eq]) (by rwa [h.params_eq]) c
      rw [h.params_eq] at hvalid
      by_cases hok : |(c.toInt : K)| ≤ p.motorMaxTorqueNm
      · have hclamp := clamp_eq_self (abs_le.mp hok).1 (abs_le.mp hok).2
        rw [AppContext.command, Registers.command, if_pos (hvalid.mpr hok), if_pos hok]
        exact ⟨rfl, h.params_eq, by simp [Vehicle.setTorque_commandedTorqueNm, h.params_eq, hclamp],
          rfl, hok⟩
      · rw [AppContext.command, Registers.command, if_neg (mt hvalid.mp hok), if_neg hok]
        exact ⟨rfl, h.params_eq, h.torque_eq, rfl, h.torque_le⟩

theorem Holds.serve {context : AppContext K} {r : Registers K} (h : Holds p context r)
    (q : AppRequest) :
    (context.serve conv q).1 = (r.answer p.motorMaxTorqueNm (inputTable conv p) q).1 ∧
      Holds p (context.serve conv q).2
        (r.answer p.motorMaxTorqueNm (inputTable conv p) q).2 := by
  cases hread : q.isRead with
  | false =>
      have hc := h.command conv hnonneg hlt q.command?
      rw [AppContext.serve_write conv context hread, Registers.answer_write _ _ r hread, hc.1]
      exact ⟨rfl, hc.2⟩
  | true =>
      rw [AppContext.serve_read conv context hread, Registers.answer_read _ _ r hread]
      apply And.intro _ h
      cases q with
      | readDiscreteInputs address quantity out =>
          simp only [AppContext.serve, readDiscreteInputs_eq, Registers.answer,
            Registers.readCell, h.failure_eq, acceleratorSensorFailureAddress]
          split_ifs <;> rfl
      | readHoldingRegisters address quantity out =>
          simp only [AppContext.serve, readHoldingRegisters_eq, Registers.answer,
            Registers.readCell, h.word_eq conv hlt, torqueRegisterAddress]
          split_ifs <;> rfl
      | readInputRegisters address quantity out =>
          simp only [AppContext.serve, readInputRegisters_eq, Registers.answer, h.params_eq]
      | writeSingleRegister address value => simp [AppRequest.isRead] at hread
      | writeMultipleRegisters address quantity registers => simp [AppRequest.isRead] at hread

theorem refines_registers :
    Machine.Refines (appMachine conv) (Registers.machine p.motorMaxTorqueNm (inputTable conv p))
      AppEvent.request? AppOutput.response? (Holds p) where
  silent context r event h hevent := by
    cases event with
    | simulationStep => exact ⟨rfl, h.params_eq, h.torque_eq, h.failure_eq, h.torque_le⟩
    | request q => simp [AppEvent.request?] at hevent
  visible context r event q h hevent := by
    cases event with
    | simulationStep => simp [AppEvent.request?] at hevent
    | request q' =>
        have hq : q' = q := by simpa [AppEvent.request?] using hevent
        have hserve := h.serve conv hnonneg hlt q'
        rw [← hq]
        exact ⟨congrArg some hserve.1, hserve.2⟩

omit hnonneg hlt

/-! ## Every history -/

def wordAfter (limit initial : K) (requests : List AppRequest) : UInt16 :=
  (((commandsOf requests).filter (withinLimit limit)).getLast?.map Int16.toUInt16).getD
    (Registers.word initial)

theorem word_torqueAfter (limit initial : K) (requests : List AppRequest) :
    Registers.word (torqueAfter limit initial requests) = wordAfter limit initial requests := by
  unfold torqueAfter wordAfter
  cases ((commandsOf requests).filter (withinLimit limit)).getLast? with
  | none => rfl
  | some c => simp [Registers.word, Int16.ofInt_toInt]

/-- What a client may rely on in a context that a history of requests led to, whatever
simulation steps came between them. -/
structure RegisterContract (p : VehicleParams K) (torqueNm : K) (requests : List AppRequest)
    (context : AppContext K) : Prop where
  single_accepted : ∀ address value,
    (writeSingleRegister conv address value context).1 = .none ↔
      address = 0 ∧ |(value.toInt16.toInt : K)| ≤ p.motorMaxTorqueNm
  multiple_accepted : ∀ address quantity registers,
    (writeMultipleRegisters conv address quantity registers context).1 = .none ↔
      (address = 0 ∧ quantity = 1) ∧
        |((registers 0).toInt16.toInt : K)| ≤ p.motorMaxTorqueNm
  entries_agree : ∀ address registers,
    writeMultipleRegisters conv address 1 registers context =
      writeSingleRegister conv address (registers 0) context
  single_exact : ∀ address value,
    (writeSingleRegister conv address value context).1 = .none →
      (writeSingleRegister conv address value context).2.vehicle.commandedTorqueNm =
        value.toInt16.toInt
  multiple_exact : ∀ address quantity registers,
    (writeMultipleRegisters conv address quantity registers context).1 = .none →
      (writeMultipleRegisters conv address quantity registers
        context).2.vehicle.commandedTorqueNm = (registers 0).toInt16.toInt
  torque_held : context.vehicle.commandedTorqueNm =
    torqueAfter p.motorMaxTorqueNm
      (clamp torqueNm (-p.motorMaxTorqueNm) p.motorMaxTorqueNm) requests
  holding_read : ∀ out,
    readHoldingRegisters conv 0 1 out context =
      (.none, out.set 0 (wordAfter p.motorMaxTorqueNm
        (clamp torqueNm (-p.motorMaxTorqueNm) p.motorMaxTorqueNm) requests), context)
  failure_read : ∀ out,
    readDiscreteInputs 0 1 out context =
      (.none, out.set 0 (failureAfter p.motorMaxTorqueNm requests).toUInt8, context)

/-- A context accepts exactly the commands within the limit, and takes them over. -/
theorem Holds.command_accepted {context : AppContext K} {r : Registers K}
    (h : Holds p context r) (hnonneg : 0 ≤ p.motorMaxTorqueNm)
    (hlt : p.motorMaxTorqueNm < 32768) (c : Option Int16) :
    ((context.command conv c).1 = .none ↔
      ∃ c', c = some c' ∧ |(c'.toInt : K)| ≤ p.motorMaxTorqueNm) ∧
    ((context.command conv c).1 = .none →
      ∃ c', c = some c' ∧ (context.command conv c).2.vehicle.commandedTorqueNm = c'.toInt) := by
  obtain ⟨hanswer, hnext⟩ := h.command conv hnonneg hlt c
  rw [hanswer, hnext.torque_eq]
  cases c with
  | none => simp [Registers.command]
  | some c =>
      by_cases hok : |(c.toInt : K)| ≤ p.motorMaxTorqueNm
      · simp [Registers.command, hok]
      · simp [Registers.command, hok]

theorem Holds.contract {context : AppContext K} {torqueNm : K} {requests : List AppRequest}
    (hnonneg : 0 ≤ p.motorMaxTorqueNm) (hlt : p.motorMaxTorqueNm < 32768)
    (h : Holds p context
      ⟨torqueAfter p.motorMaxTorqueNm
        (clamp torqueNm (-p.motorMaxTorqueNm) p.motorMaxTorqueNm) requests,
        failureAfter p.motorMaxTorqueNm requests⟩) :
    RegisterContract conv p torqueNm requests context where
  single_accepted address value := by
    rw [writeSingleRegister_eq_command, (h.command_accepted conv hnonneg hlt _).1]
    simp [AppRequest.command?_single_eq_some, and_assoc]
  multiple_accepted address quantity registers := by
    rw [writeMultipleRegisters_eq_command, (h.command_accepted conv hnonneg hlt _).1]
    simp [AppRequest.command?_multiple_eq_some, and_assoc]
  entries_agree address registers := by
    rw [writeMultipleRegisters_eq_command, writeSingleRegister_eq_command]
    simp [AppRequest.command?]
  single_exact address value := by
    rw [writeSingleRegister_eq_command]
    intro hok
    obtain ⟨c, hc, htorque⟩ := (h.command_accepted conv hnonneg hlt _).2 hok
    rw [htorque, (AppRequest.command?_single_eq_some.mp hc).2]
  multiple_exact address quantity registers := by
    rw [writeMultipleRegisters_eq_command]
    intro hok
    obtain ⟨c, hc, htorque⟩ := (h.command_accepted conv hnonneg hlt _).2 hok
    rw [htorque, (AppRequest.command?_multiple_eq_some.mp hc).2]
  torque_held := h.torque_eq
  holding_read out := by
    rw [readHoldingRegisters_eq, h.word_eq conv hlt, word_torqueAfter, if_pos ⟨rfl, rfl⟩]
  failure_read out := by
    rw [readDiscreteInputs_eq, h.failure_eq, if_pos ⟨rfl, rfl⟩]

/-- The application is a two-register machine: after every interleaving of simulation
steps and requests it keeps the register contract, and its answers are those of the
registers to the requests alone. -/
theorem refines_register_machine (hnonneg : 0 ≤ p.motorMaxTorqueNm)
    (hlt : p.motorMaxTorqueNm < 32768) (torqueNm : K) (history : List AppEvent) :
    RegisterContract conv p torqueNm (history.filterMap AppEvent.request?)
      ((appMachine conv).run (appInit p torqueNm) history) ∧
    ((appMachine conv).outputs (appInit p torqueNm) history).filterMap AppOutput.response? =
      (Registers.machine p.motorMaxTorqueNm (inputTable conv p)).outputs
        ⟨clamp torqueNm (-p.motorMaxTorqueNm) p.motorMaxTorqueNm, false⟩
        (history.filterMap AppEvent.request?) := by
  have hrefines := refines_registers conv hnonneg hlt
  have hinitial := Holds.initial hnonneg torqueNm
  have hreached := hrefines.run_related hinitial history
  rw [Registers.run_eq_after] at hreached
  exact ⟨hreached.contract conv hnonneg hlt, hrefines.outputs_eq hinitial history⟩

/-- A refused command between two steps, on the vehicle of `main`. -/
theorem refines_register_machine_main :
    RegisterContract (K := ℚ) Conversions.wrapping mainParams 0
      ([AppEvent.request (.writeSingleRegister 0 100), .simulationStep,
        .request (.writeSingleRegister 0 221)].filterMap AppEvent.request?)
      ((appMachine Conversions.wrapping).run (appInit mainParams 0)
        [.request (.writeSingleRegister 0 100), .simulationStep,
          .request (.writeSingleRegister 0 221)]) ∧
    wordAfter (220 : ℚ) 0 [.writeSingleRegister 0 100, .writeSingleRegister 0 221] = 100 ∧
    failureAfter (220 : ℚ) [.writeSingleRegister 0 100, .writeSingleRegister 0 221] = true :=
  ⟨(refines_register_machine Conversions.wrapping (by decide) (by decide) 0 _).1,
    by decide +kernel, by decide +kernel⟩

end Refinement

end DriveSim
