import DriveSim.App.InputTable

/-!
# The conversions of the callbacks

The callbacks convert real parameters and torques to sixteen-bit integers.  Here every
callback is read once more for the conversions it executes, in the order in which it
executes them.  What is listed is all that an answer depends on the machine for.
-/

namespace DriveSim

open Lib

section Executed

variable {K : Type*} [Field K] [LinearOrder K] [FloorRing K] (conv : Conversions K)

/-! ## The conversions of each function -/

def encodeScaledConversions (value scale : K) : List (Conversion K) :=
  if value ≤ 0 then [] else [.toUInt16 (scaledForRegister value scale)]

/-- The `&&` converts the limit a second time only where the first comparison holds. -/
def isTorqueCommandValidConversions (context : AppContext K) (torqueCommand : Int16) :
    List (Conversion K) :=
  let maxTorque := context.vehicle.params.motorMaxTorqueNm
  .toInt16 maxTorque ::
    if -(conv.toInt16 maxTorque).toInt ≤ torqueCommand.toInt then [.toInt16 maxTorque] else []

def readHoldingRegistersConversions (address quantity : UInt16) (context : AppContext K) :
    List (Conversion K) :=
  if expectSingleRegister address quantity torqueRegisterAddress ≠ .none then []
  else [.toInt16 context.vehicle.commandedTorqueNm]

def inputRegisterConversions (params : VehicleParams K) : Nat → Option (List (Conversion K))
  | 0 => some (encodeScaledConversions params.massKg 1)
  | 1 => some (encodeScaledConversions params.frontalAreaM2 (1000 : ℕ))
  | 2 => some (encodeScaledConversions params.rollingResistanceCoefficient (10000 : ℕ))
  | 3 => some (encodeScaledConversions params.motorMaxSpeedRadPerSec 1)
  | 4 => some (encodeScaledConversions params.motorMaxTorqueNm 1)
  | 5 => some (encodeScaledConversions params.gearRatio (100 : ℕ))
  | 6 => some (encodeScaledConversions params.wheelRadiusM (1000 : ℕ))
  | _ => none

def readInputRegistersFromConversions (params : VehicleParams K) (address i : Nat) :
    Nat → List (Conversion K)
  | 0 => []
  | remaining + 1 =>
      match inputRegisterConversions params (address + i) with
      | some converted =>
          converted ++ readInputRegistersFromConversions params address (i + 1) remaining
      | none => []

def readInputRegistersConversions (address quantity : UInt16) (context : AppContext K) :
    List (Conversion K) :=
  if quantity < 1 then []
  else if paramCount < address.toNat + quantity.toNat then []
  else
    readInputRegistersFromConversions context.vehicle.params address.toNat 0 quantity.toNat

def writeSingleRegisterConversions (address value : UInt16) (context : AppContext K) :
    List (Conversion K) :=
  if expectSingleRegister address 1 torqueRegisterAddress ≠ .none then []
  else isTorqueCommandValidConversions conv context value.toInt16

def writeMultipleRegistersConversions (address quantity : UInt16) (registers : Cells UInt16)
    (context : AppContext K) : List (Conversion K) :=
  if expectSingleRegister address quantity torqueRegisterAddress ≠ .none then []
  else isTorqueCommandValidConversions conv context (registers 0).toInt16

def AppContext.conversions (context : AppContext K) : AppRequest → List (Conversion K)
  | .readDiscreteInputs .. => []
  | .readHoldingRegisters address quantity _ =>
      readHoldingRegistersConversions address quantity context
  | .readInputRegisters address quantity _ =>
      readInputRegistersConversions address quantity context
  | .writeSingleRegister address value =>
      writeSingleRegisterConversions conv address value context
  | .writeMultipleRegisters address quantity registers =>
      writeMultipleRegistersConversions conv address quantity registers context

def InputLine.conversions (line : InputLine K) : List (Conversion K) :=
  encodeScaledConversions line.value line.scale

theorem inputRegisterConversions_eq_getElem? (p : VehicleParams K) (address : Nat) :
    inputRegisterConversions p address =
      (inputLines p)[address]?.map InputLine.conversions := by
  rcases lt_or_ge address paramCount with h | h
  · unfold paramCount at h
    interval_cases address <;> simp [inputRegisterConversions, inputLines, InputLine.conversions]
  · rw [List.getElem?_eq_none (by simpa using h)]
    unfold paramCount at h
    unfold inputRegisterConversions
    split <;> first | omega | rfl

theorem readInputRegistersFromConversions_eq (p : VehicleParams K) (address i remaining : Nat) :
    readInputRegistersFromConversions p address i remaining =
      (((inputLines p).drop (address + i)).take remaining).flatMap InputLine.conversions := by
  induction remaining generalizing i with
  | zero => simp [readInputRegistersFromConversions]
  | succ remaining ih =>
      rw [readInputRegistersFromConversions, inputRegisterConversions_eq_getElem?]
      rcases lt_or_ge (address + i) (inputLines p).length with h | h
      · rw [List.getElem?_eq_getElem h, List.drop_eq_getElem_cons h, List.take_succ_cons,
          List.flatMap_cons, add_assoc, ← ih]
        rfl
      · rw [List.getElem?_eq_none h, List.drop_eq_nil_of_le h]
        rfl

theorem readInputRegistersConversions_eq (address quantity : UInt16) (context : AppContext K) :
    readInputRegistersConversions address quantity context =
      if InWindow address quantity then
        (((inputLines context.vehicle.params).drop address.toNat).take quantity.toNat).flatMap
          InputLine.conversions
      else [] := by
  by_cases hwindow : InWindow address quantity
  · rw [readInputRegistersConversions, if_neg fun hempty => lt_one_iff.mp hempty hwindow.1,
      if_neg hwindow.2.not_gt, readInputRegistersFromConversions_eq, add_zero, if_pos hwindow]
  · rw [if_neg hwindow]
    unfold readInputRegistersConversions
    split_ifs with hempty hover
    · rfl
    · rfl
    · rw [lt_one_iff, not_not] at hempty
      exact absurd ⟨hempty, not_lt.mp hover⟩ hwindow

/-! ## Nothing else depends on the machine -/

section Congruence

variable {conv} {conv' : Conversions K}

theorem encodeScaled_congr {value scale : K}
    (h : ∀ c ∈ encodeScaledConversions value scale, c.SameOn conv conv') :
    encodeScaled conv value scale = encodeScaled conv' value scale := by
  unfold encodeScaledConversions at h
  unfold encodeScaled
  split_ifs at h ⊢
  · rfl
  · exact h _ List.mem_cons_self

theorem isTorqueCommandValid_congr {context : AppContext K} {c : Int16}
    (h : ∀ c' ∈ isTorqueCommandValidConversions conv context c, c'.SameOn conv conv') :
    isTorqueCommandValid conv context c = isTorqueCommandValid conv' context c := by
  have hlimit : conv.toInt16 context.vehicle.params.motorMaxTorqueNm =
      conv'.toInt16 context.vehicle.params.motorMaxTorqueNm := h _ List.mem_cons_self
  rw [isTorqueCommandValid, isTorqueCommandValid, hlimit]

theorem readInputRegistersFrom_congr {p : VehicleParams K} {address i remaining : Nat}
    (h : ∀ c ∈ readInputRegistersFromConversions p address i remaining, c.SameOn conv conv')
    (out : Cells UInt16) :
    readInputRegistersFrom conv p address i out remaining =
      readInputRegistersFrom conv' p address i out remaining := by
  induction remaining generalizing i out with
  | zero => rfl
  | succ remaining ih =>
      rw [readInputRegistersFromConversions, inputRegisterConversions_eq_getElem?] at h
      rw [readInputRegistersFrom, readInputRegistersFrom, inputRegister_eq_getElem?,
        inputRegister_eq_getElem?]
      cases hline : (inputLines p)[address + i]? with
      | none => rfl
      | some line =>
          rw [hline] at h
          simp only [Option.map_some, List.forall_mem_append] at h ⊢
          rw [encodeScaled_congr h.1]
          exact ih h.2 _

/-- What a request does depends on the machine through the listed conversions alone. -/
theorem AppContext.serve_congr {context : AppContext K} {q : AppRequest}
    (h : ∀ c ∈ context.conversions conv q, c.SameOn conv conv') :
    context.serve conv q = context.serve conv' q := by
  cases q with
  | readDiscreteInputs address quantity out => rfl
  | readHoldingRegisters address quantity out =>
      simp only [serve, DriveSim.readHoldingRegisters]
      simp only [conversions, readHoldingRegistersConversions] at h
      split_ifs at h ⊢ with herr
      · rfl
      · rw [show conv.toInt16 context.vehicle.commandedTorqueNm =
          conv'.toInt16 context.vehicle.commandedTorqueNm from h _ List.mem_cons_self]
  | readInputRegisters address quantity out =>
      simp only [serve, DriveSim.readInputRegisters]
      simp only [conversions, readInputRegistersConversions] at h
      split_ifs at h ⊢ with hpos hfit
      · rfl
      · rfl
      · rw [readInputRegistersFrom_congr h]
  | writeSingleRegister address value =>
      simp only [serve, DriveSim.writeSingleRegister]
      simp only [conversions, writeSingleRegisterConversions] at h
      split_ifs at h with herr
      · simp only [if_pos herr]
      · rw [isTorqueCommandValid_congr h]
  | writeMultipleRegisters address quantity registers =>
      simp only [serve, DriveSim.writeMultipleRegisters]
      simp only [conversions, writeMultipleRegistersConversions] at h
      split_ifs at h with herr
      · simp only [if_pos herr]
      · rw [isTorqueCommandValid_congr h]

end Congruence

theorem AppContext.serve_eq_of_inRange {context : AppContext K} {q : AppRequest}
    (h : ∀ c ∈ context.conversions conv q, c.InRange) (conv' : Conversions K) :
    context.serve conv q = context.serve conv' q :=
  serve_congr fun c hc => (h c hc).sameOn conv conv'

end Executed

section Range

variable {K : Type*} [Field K] [LinearOrder K] [FloorRing K] [IsStrictOrderedRing K]

/-! ## When each conversion is in range -/

theorem encodeScaledConversions_inRange_iff {value scale : K} (hscale : 0 < scale) :
    (∀ c ∈ encodeScaledConversions value scale, c.InRange) ↔
      value * scale + 0.5 < 65536 - 1 / 2 ^ 38 := by
  unfold encodeScaledConversions
  split_ifs with hvalue
  · have hscaled : value * scale ≤ 0 := mul_nonpos_of_nonpos_of_nonneg hvalue hscale.le
    refine iff_of_true (fun c hc => absurd hc List.not_mem_nil) ?_
    norm_num
    linarith
  · have hscaled : 0 < value * scale := mul_pos (not_le.mp hvalue) hscale
    have hlow : -1 < scaledForRegister value scale := by
      linarith [scaledForRegister_nonneg hscaled]
    simp only [List.mem_singleton, forall_eq, Conversion.InRange, and_iff_right hlow,
      scaledForRegister_lt_iff hscaled]

theorem readInputRegistersConversions_inRange_iff {context : AppContext K}
    {address quantity : UInt16} :
    (∀ c ∈ readInputRegistersConversions address quantity context, c.InRange) ↔
      (InWindow address quantity →
        ∀ line ∈ ((inputLines context.vehicle.params).drop address.toNat).take quantity.toNat,
          line.value * line.scale + 0.5 < 65536 - 1 / 2 ^ 38) := by
  rw [readInputRegistersConversions_eq]
  split_ifs with hwindow
  · simp only [List.forall_mem_flatMap, hwindow, true_implies]
    refine forall₂_congr fun line hline => ?_
    have hmem := List.mem_of_mem_drop (List.mem_of_mem_take hline)
    exact encodeScaledConversions_inRange_iff
      (Nat.cast_pos.mpr (scale_pos_of_mem_inputLines hmem))
  · simp [hwindow]

omit [IsStrictOrderedRing K] in
theorem isTorqueCommandValidConversions_inRange_iff (conv : Conversions K)
    {context : AppContext K} {c : Int16} :
    (∀ c' ∈ isTorqueCommandValidConversions conv context c, c'.InRange) ↔
      (Conversion.toInt16 context.vehicle.params.motorMaxTorqueNm).InRange := by
  rw [isTorqueCommandValidConversions]
  split_ifs <;> simp

end Range

/-! ## Every reachable state -/

section Reached

variable {K : Type*} [Field K] [LinearOrder K] [FloorRing K] (conv : Conversions K)

/-- The states that torque commands, steps and requests lead to after `Vehicle_init`. -/
inductive Reached (p : VehicleParams K) : AppContext K → Prop
  | init : Reached p { vehicle := Vehicle.init p, acceleratorSensorFailure := false }
  | setTorque {context : AppContext K} (h : Reached p context) (torqueNm : K) :
      Reached p { context with vehicle := context.vehicle.setTorque torqueNm }
  | event {context : AppContext K} (h : Reached p context) (event : AppEvent) :
      Reached p ((appMachine conv).step context event).2

/-- No request converts a value out of range, whatever state it finds. -/
def ConversionsInRange (p : VehicleParams K) : Prop :=
  ∀ context, Reached conv p context → ∀ q, ∀ c ∈ context.conversions conv q, c.InRange

/-- Where no conversion leaves its range, clients cannot tell the machines apart. -/
theorem outputs_eq_of_conversionsInRange {p : VehicleParams K}
    (h : ConversionsInRange conv p) (conv' : Conversions K) {context : AppContext K}
    (hreached : Reached conv p context) (history : List AppEvent) :
    (appMachine conv).outputs context history = (appMachine conv').outputs context history := by
  refine Machine.outputs_congr (I := Reached conv p) (fun _ event hr => hr.event event) ?_
    hreached history
  intro context event hr
  cases event with
  | simulationStep => rfl
  | request q =>
      have hserve := AppContext.serve_eq_of_inRange conv (h context hr q) conv'
      simp only [appMachine, hserve]

structure Limited (p : VehicleParams K) (v : Vehicle K) : Prop where
  params_eq : v.params = p
  torque_le : |v.commandedTorqueNm| ≤ p.motorMaxTorqueNm

variable [IsStrictOrderedRing K] {p : VehicleParams K}

omit [FloorRing K] in
theorem Limited.setTorque {v : Vehicle K} (hnonneg : 0 ≤ p.motorMaxTorqueNm)
    (h : Limited p v) (torqueNm : K) : Limited p (v.setTorque torqueNm) where
  params_eq := h.params_eq
  torque_le := by
    rw [Vehicle.setTorque_commandedTorqueNm, h.params_eq]
    exact abs_clamp_le hnonneg torqueNm

variable {conv} in
theorem Reached.limited (hnonneg : 0 ≤ p.motorMaxTorqueNm) {context : AppContext K}
    (h : Reached conv p context) : Limited p context.vehicle := by
  induction h with
  | init => exact ⟨rfl, by simpa using hnonneg⟩
  | setTorque _ torqueNm ih => exact ih.setTorque hnonneg torqueNm
  | @event context _ event ih =>
      cases event with
      | simulationStep => exact ⟨ih.params_eq, ih.torque_le⟩
      | request q =>
          show Limited p (context.serve conv q).2.vehicle
          rcases context.serve_vehicle conv q with hkept | ⟨torqueNm, hset⟩
          · rw [hkept]
            exact ih
          · rw [hset]
            exact ih.setTorque hnonneg torqueNm

theorem fits_of_conversionsInRange (h : ConversionsInRange conv p) :
    (∀ line ∈ inputLines p, line.value * line.scale + 0.5 < 65536 - 1 / 2 ^ 38) ∧
      p.motorMaxTorqueNm < 32768 := by
  have htable := readInputRegistersConversions_inRange_iff.mp
    (h _ .init (.readInputRegisters 0 7 fun _ => 0))
  have hlimit := (isTorqueCommandValidConversions_inRange_iff conv).mp
    (h _ .init (.writeSingleRegister 0 0))
  exact ⟨htable (by decide), hlimit.2⟩

/-- No conversion of a callback leaves its target range exactly when the seven registers
and the signed torque limit can hold the parameters. -/
theorem conversionsInRange_iff (p : VehicleParams K) (hnonneg : 0 ≤ p.motorMaxTorqueNm) :
    ConversionsInRange conv p ↔
      (∀ line ∈ inputLines p, line.value * line.scale + 0.5 < 65536 - 1 / 2 ^ 38) ∧
        p.motorMaxTorqueNm < 32768 := by
  refine ⟨fits_of_conversionsInRange conv, ?_⟩
  rintro ⟨hlines, hlimit⟩ context hreached q
  have hlimited := hreached.limited hnonneg
  have htorque := abs_le.mp hlimited.torque_le
  have hmax : (Conversion.toInt16 context.vehicle.params.motorMaxTorqueNm).InRange := by
    rw [hlimited.params_eq]
    exact ⟨by linarith, hlimit⟩
  cases q with
  | readDiscreteInputs address quantity out =>
      intro c hc
      exact absurd hc List.not_mem_nil
  | readHoldingRegisters address quantity out =>
      simp only [AppContext.conversions, readHoldingRegistersConversions]
      split_ifs
      · simp
      · simp only [List.mem_singleton, forall_eq]
        exact ⟨by linarith [htorque.1], htorque.2.trans_lt hlimit⟩
  | readInputRegisters address quantity out =>
      refine readInputRegistersConversions_inRange_iff.mpr fun _ line hline => ?_
      rw [hlimited.params_eq] at hline
      exact hlines line (List.mem_of_mem_drop (List.mem_of_mem_take hline))
  | writeSingleRegister address value =>
      simp only [AppContext.conversions, writeSingleRegisterConversions]
      split_ifs
      · simp
      · exact (isTorqueCommandValidConversions_inRange_iff conv).mpr hmax
  | writeMultipleRegisters address quantity registers =>
      simp only [AppContext.conversions, writeMultipleRegistersConversions]
      split_ifs
      · simp
      · exact (isTorqueCommandValidConversions_inRange_iff conv).mpr hmax

end Reached

theorem conversionsInRange_main :
    ConversionsInRange Conversions.wrapping (mainParams : VehicleParams ℚ) :=
  (conversionsInRange_iff Conversions.wrapping mainParams (by decide)).mpr
    ⟨by decide +kernel, by decide +kernel⟩

def heavyParams : VehicleParams ℚ := { mainParams with massKg := 70000 }

/-- The mass does not fit its register, and reading the register converts it all the same. -/
theorem heavy_vehicle_out_of_range :
    (∀ line ∈ inputLines heavyParams, 0 ≤ line.value) ∧
    Conversion.toUInt16 70000.5 ∈ (appInit heavyParams 0).conversions Conversions.wrapping
      (.readInputRegisters 0 1 fun _ => 0) ∧
    ¬ (Conversion.toUInt16 (70000.5 : ℚ)).InRange ∧
    (readInputRegisters Conversions.wrapping 0 1 (fun _ => 0) (appInit heavyParams 0)).2.1 0 =
      4464 ∧
    ¬ ConversionsInRange Conversions.wrapping heavyParams := by
  have hlisted : Conversion.toUInt16 70000.5 ∈ (appInit heavyParams 0).conversions
      Conversions.wrapping (.readInputRegisters 0 1 fun _ => 0) := by decide +kernel
  have hout : ¬ (Conversion.toUInt16 (70000.5 : ℚ)).InRange := by decide +kernel
  refine ⟨by decide +kernel, hlisted, hout, by decide +kernel, fun h => ?_⟩
  exact hout (h _ (.setTorque .init 0) _ _ hlisted)

/-- A motor of 40 kNm refuses every command, even the command to stop. -/
example : (writeSingleRegister Conversions.wrapping torqueRegisterAddress 0
    (appInit { (mainParams : VehicleParams ℚ) with motorMaxTorqueNm := 40000 } 0)).1 =
      .illegalDataValue := by
  decide +kernel

end DriveSim
