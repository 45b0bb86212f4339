import DriveSim.App.InputTable

/-!
# The advertised and the enforced torque limit

Input register 4 rounds `motor_max_torque_nm` to the nearest integer, the check of a
command drops the fractional part.  The two limits differ by one whenever the limit is
rounded up, and then exactly one magnitude of command tells them apart.  The limit is a
double here: the register rounds up from a half on, and also the last double below a half.
-/

namespace DriveSim

open Lib

def paramMotorMaxTorqueAddress : UInt16 := 4

section Limit

variable {K : Type*} [Field K] [LinearOrder K] [FloorRing K] (conv : Conversions K)

/-- Both write callbacks accept the command exactly when the limit read from the input
register admits it. -/
structure LimitAgrees (context : AppContext K) (c : Int16) : Prop where
  single : ∀ out : Cells UInt16,
    (writeSingleRegister conv torqueRegisterAddress c.toUInt16 context).1 = .none ↔
      |c.toInt| ≤
        ((readInputRegisters conv paramMotorMaxTorqueAddress 1 out context).2.1 0).toNat
  multiple : ∀ registers out : Cells UInt16, registers 0 = c.toUInt16 →
    ((writeMultipleRegisters conv torqueRegisterAddress 1 registers context).1 = .none ↔
      |c.toInt| ≤
        ((readInputRegisters conv paramMotorMaxTorqueAddress 1 out context).2.1 0).toNat)

theorem writeMultipleRegisters_single {registers : Cells UInt16} {c : Int16}
    (h : registers 0 = c.toUInt16) (context : AppContext K) :
    writeMultipleRegisters conv torqueRegisterAddress 1 registers context =
      writeSingleRegister conv torqueRegisterAddress c.toUInt16 context := by
  rw [writeMultipleRegisters_eq_command, writeSingleRegister_eq_command]
  simp [AppRequest.command?, h]

variable [IsStrictOrderedRing K] {context : AppContext K}

section Bounds

variable (hdouble : Binary64.Representable context.vehicle.params.motorMaxTorqueNm)
  (hnonneg : 0 ≤ context.vehicle.params.motorMaxTorqueNm)
  (hlt : context.vehicle.params.motorMaxTorqueNm < 32768)
include hnonneg hlt

omit hdouble in
theorem writeSingleRegister_accepted_iff (c : Int16) :
    (writeSingleRegister conv torqueRegisterAddress c.toUInt16 context).1 = .none ↔
      |c.toInt| ≤ ⌊context.vehicle.params.motorMaxTorqueNm⌋ := by
  have hvalid := isTorqueCommandValid_iff conv context hnonneg hlt c
  rw [← Int.cast_abs, ← Int.le_floor] at hvalid
  rw [← hvalid, writeSingleRegister_eq_command]
  simp only [AppRequest.command?, if_true, AppContext.command, Int16.toInt16_toUInt16]
  split_ifs with h <;> simp [h]

include hdouble

theorem readInputRegisters_maxTorque (out : Cells UInt16) :
    (((readInputRegisters conv paramMotorMaxTorqueAddress 1 out context).2.1 0).toNat : ℤ) =
      if Int.fract context.vehicle.params.motorMaxTorqueNm < 1 / 2 - 1 / 2 ^ 54 then
        ⌊context.vehicle.params.motorMaxTorqueNm⌋
      else ⌊context.vehicle.params.motorMaxTorqueNm⌋ + 1 := by
  have hwindow : InWindow paramMotorMaxTorqueAddress 1 := by decide
  rw [readInputRegisters_of_inWindow conv hwindow]
  show ((encodeScaled conv context.vehicle.params.motorMaxTorqueNm 1).toNat : ℤ) = _
  rcases hnonneg.eq_or_lt with hzero | hpos
  · rw [encodeScaled_of_nonpos conv hzero.symm.le, ← hzero]
    norm_num
  · rw [toNat_encodeScaled conv hpos one_pos (by norm_num at hlt ⊢; linarith),
      scaledForRegister_eq, mul_one, hdouble.nearest_eq hpos]
    exact Binary64.floor_nearest_add_half hdouble hnonneg (hlt.trans (by norm_num))

theorem limitAgrees_iff_limits (c : Int16) :
    LimitAgrees conv context c ↔
      (|c.toInt| ≤ ⌊context.vehicle.params.motorMaxTorqueNm⌋ ↔
        |c.toInt| ≤
          if Int.fract context.vehicle.params.motorMaxTorqueNm < 1 / 2 - 1 / 2 ^ 54 then
            ⌊context.vehicle.params.motorMaxTorqueNm⌋
          else ⌊context.vehicle.params.motorMaxTorqueNm⌋ + 1) := by
  have haccepted := writeSingleRegister_accepted_iff conv hnonneg hlt c
  have hread := readInputRegisters_maxTorque conv hdouble hnonneg hlt
  constructor
  · intro h
    have hsingle := h.single fun _ => 0
    rwa [haccepted, hread] at hsingle
  · intro h
    refine ⟨fun out => ?_, fun registers out hregisters => ?_⟩
    · rw [haccepted, hread, h]
    · rw [writeMultipleRegisters_single conv hregisters, haccepted, hread, h]

/-- Only the integer just above a limit that is rounded up sees the two differ. -/
theorem limitAgrees_iff (c : Int16) :
    LimitAgrees conv context c ↔
      Int.fract context.vehicle.params.motorMaxTorqueNm < 1 / 2 - 1 / 2 ^ 54 ∨
        |c.toInt| ≠ ⌊context.vehicle.params.motorMaxTorqueNm⌋ + 1 := by
  rw [limitAgrees_iff_limits conv hdouble hnonneg hlt]
  split_ifs with h
  · exact iff_of_true Iff.rfl (Or.inl h)
  · rw [or_iff_right h]
    omega

end Bounds

theorem exists_command_above {x : K} (hnonneg : 0 ≤ x) (hle : x ≤ 32767)
    (h : 0 < Int.fract x) : ∃ c : Int16, |c.toInt| = ⌊x⌋ + 1 := by
  have hfloor : 0 ≤ ⌊x⌋ := Int.floor_nonneg.mpr hnonneg
  have hlt : ⌊x⌋ < 32767 := by
    have hbelow : (⌊x⌋ : K) < (32767 : ℤ) := by
      push_cast
      linarith [Int.floor_add_fract x]
    exact_mod_cast hbelow
  refine ⟨Int16.ofInt (⌊x⌋ + 1), ?_⟩
  rw [Int16.toInt_ofInt_of_le (by omega) (by omega), abs_of_nonneg (by omega)]

/-- The advertised limit is the enforced one for every command but the magnitude just
above a limit that was rounded up; so it is for all commands exactly when the limit is
rounded down. -/
theorem advertised_limit_enforced_iff
    (hdouble : Binary64.Representable context.vehicle.params.motorMaxTorqueNm)
    (hnonneg : 0 ≤ context.vehicle.params.motorMaxTorqueNm)
    (hle : context.vehicle.params.motorMaxTorqueNm ≤ 32767) :
    (∀ c, LimitAgrees conv context c ↔
      Int.fract context.vehicle.params.motorMaxTorqueNm < 1 / 2 - 1 / 2 ^ 54 ∨
        |c.toInt| ≠ ⌊context.vehicle.params.motorMaxTorqueNm⌋ + 1) ∧
    ((∀ c, LimitAgrees conv context c) ↔
      Int.fract context.vehicle.params.motorMaxTorqueNm < 1 / 2 - 1 / 2 ^ 54) := by
  have hlt : context.vehicle.params.motorMaxTorqueNm < 32768 := by linarith
  have hcommand := limitAgrees_iff conv hdouble hnonneg hlt
  refine ⟨hcommand, fun hall => ?_, fun h c => (hcommand c).mpr (Or.inl h)⟩
  by_contra hup
  have hfract : 0 < Int.fract context.vehicle.params.motorMaxTorqueNm :=
    lt_of_lt_of_le (by norm_num) (not_lt.mp hup)
  obtain ⟨c, hc⟩ := exists_command_above hnonneg hle hfract
  exact ((hcommand c).mp (hall c)).elim hup fun hne => hne hc

end Limit

def halfNewtonMetre : AppContext ℚ := appInit { mainParams with motorMaxTorqueNm := 220.5 } 0

theorem advertised_limit_enforced_iff_half :
    (∀ c, LimitAgrees Conversions.wrapping halfNewtonMetre c) ↔
      Int.fract (220.5 : ℚ) < 1 / 2 - 1 / 2 ^ 54 :=
  (@advertised_limit_enforced_iff ℚ _ _ _ Conversions.wrapping _ halfNewtonMetre
    ⟨441, -1, by decide, by decide, by decide +kernel⟩ (by decide +kernel) (by decide +kernel)).2

/-- A client that commands the 221 Nm it has read is refused and trips the failure flag. -/
theorem advertised_limit_refused :
    (readInputRegisters Conversions.wrapping paramMotorMaxTorqueAddress 1 (fun _ => 0)
      halfNewtonMetre).2.1 0 = 221 ∧
    (writeSingleRegister Conversions.wrapping torqueRegisterAddress 221 halfNewtonMetre).1 =
      .illegalDataValue ∧
    (writeSingleRegister Conversions.wrapping torqueRegisterAddress 221
      halfNewtonMetre).2.acceleratorSensorFailure = true ∧
    ¬ LimitAgrees Conversions.wrapping halfNewtonMetre 221 := by
  refine ⟨by decide +kernel, by decide +kernel, by decide +kernel, fun h => ?_⟩
  have hsingle := (h.single fun _ => 0).mpr (by decide +kernel)
  exact absurd hsingle (by decide +kernel)

end DriveSim
