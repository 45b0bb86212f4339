import DriveSim.App.RegisterMachine

/-!
# The table of input registers

The `switch` of `read_input_registers` and the documented table are the same list of
lines, each with its own scale.  A request reads a window of that list, so a window may
be cut into smaller ones anywhere without changing what is read.  The value of a line is
scaled in double precision, which shows only at the edges of the rounding.
-/

namespace DriveSim

open Lib

/-- One line of the documented table: its register holds `value * scale`. -/
structure InputLine (K : Type*) where
  value : K
  scale : ℕ

section Lines

variable {K : Type*} [Field K] [LinearOrder K]

/-- What a client may conclude from the register of a line. -/
structure InputLine.Encodes (line : InputLine K) (tolerance : K) (word : UInt16) : Prop where
  nonpos : line.value ≤ 0 → word = 0
  near : 0 < line.value → |(word.toNat : K) - line.value * line.scale| ≤ tolerance

end Lines

def inputLines {K : Type*} (p : VehicleParams K) : List (InputLine K) :=
  [⟨p.massKg, 1⟩, ⟨p.frontalAreaM2, 1000⟩, ⟨p.rollingResistanceCoefficient, 10000⟩,
    ⟨p.motorMaxSpeedRadPerSec, 1⟩, ⟨p.motorMaxTorqueNm, 1⟩, ⟨p.gearRatio, 100⟩,
    ⟨p.wheelRadiusM, 1000⟩]

@[simp] theorem length_inputLines {K : Type*} (p : VehicleParams K) :
    (inputLines p).length = paramCount := rfl

theorem scale_pos_of_mem_inputLines {K : Type*} {p : VehicleParams K} {line : InputLine K}
    (h : line ∈ inputLines p) : 0 < line.scale := by
  simp only [inputLines, List.mem_cons, List.not_mem_nil, or_false] at h
  rcases h with rfl | rfl | rfl | rfl | rfl | rfl | rfl <;> norm_num

section Rounding

variable {K : Type*} [Field K] [LinearOrder K] [FloorRing K] (conv : Conversions K)

theorem encodeScaled_of_nonpos {value : K} (h : value ≤ 0) (scale : K) :
    encodeScaled conv value scale = 0 := if_pos h

theorem scaledForRegister_eq (value scale : K) :
    scaledForRegister value scale =
      Binary64.nearest (Binary64.nearest (value * scale) + 1 / 2) := by
  norm_num [scaledForRegister]

variable [IsStrictOrderedRing K] {value scale : K}

/-- The last half below the range of a register takes a spacing of doubles with it. -/
theorem nearest_lt_lastHalf_iff {x : K} (hx : 0 < x) :
    Binary64.nearest x < 65535 + 1 / 2 ↔ x + 0.5 < 65536 - 1 / 2 ^ 38 := by
  have hreach := Binary64.le_nearest_iff (m := (2 * 65535 + 1) * 2 ^ 36) (e := -(36 + 1 : ℕ))
    (by decide) (by decide) (by decide) (by decide) hx
  have hhalf := Binary64.two_mul_add_one_mul_twoPow_neg (K := K) 65535 36
  rw [Nat.cast_ofNat, Nat.cast_ofNat] at hhalf
  rw [hhalf, Binary64.twoPow_neg_natCast] at hreach
  rw [← not_le, hreach, not_le]
  norm_num
  constructor <;> intro h <;> linarith

theorem scaledForRegister_lt_iff (h : 0 < value * scale) :
    scaledForRegister value scale < 65536 ↔ value * scale + 0.5 < 65536 - 1 / 2 ^ 38 := by
  have hlast := Binary64.succ_le_nearest_add_half_iff (K := K) (n := 65535) (by norm_num)
    (by norm_num) (Binary64.representable_nearest h) (Binary64.nearest_nonneg h)
  have hrange : ((65535 : ℕ) : K) + 1 = 65536 := by norm_num
  rw [hrange, Nat.cast_ofNat] at hlast
  rw [scaledForRegister_eq, ← nearest_lt_lastHalf_iff h, ← not_le, hlast, not_le]

theorem abs_scaledForRegister_sub_le (h : 0 < value * scale)
    (hfits : value * scale + 0.5 < 65536 - 1 / 2 ^ 38) :
    |scaledForRegister value scale - (value * scale + 1 / 2)| ≤ 1 / 2 ^ 37 := by
  have hrange : (Binary64.twoPow (53 + -37) : K) = 65536 := by
    rw [show (53 + -37 : ℤ) = ((16 : ℕ) : ℤ) from rfl, Binary64.twoPow_natCast]
    norm_num
  have hulp : (Binary64.twoPow (-37) : K) = 1 / 2 ^ 37 := Binary64.twoPow_neg_natCast 37
  have hlast := (nearest_lt_lastHalf_iff h).mpr hfits
  have hnonneg := Binary64.nearest_nonneg h
  have hproduct := Binary64.abs_nearest_sub_le_of_lt (e := -37) h (by norm_num)
    (by rw [hrange]; norm_num at hfits ⊢; linarith)
  have hsum := Binary64.abs_nearest_sub_le_of_lt (e := -37)
    (show 0 < Binary64.nearest (value * scale) + 1 / 2 by linarith) (by norm_num)
    (by rw [hrange]; linarith)
  rw [hulp] at hproduct hsum
  rw [scaledForRegister_eq]
  rw [abs_le] at hproduct hsum ⊢
  constructor <;> linarith [hproduct.1, hproduct.2, hsum.1, hsum.2]

theorem scaledForRegister_nonneg (h : 0 < value * scale) : 0 ≤ scaledForRegister value scale := by
  rw [scaledForRegister_eq]
  exact Binary64.nearest_nonneg (by linarith [Binary64.nearest_nonneg h])

theorem toNat_encodeScaled (hvalue : 0 < value) (hscale : 0 < scale)
    (hfits : value * scale + 0.5 < 65536 - 1 / 2 ^ 38) :
    ((encodeScaled conv value scale).toNat : ℤ) = ⌊scaledForRegister value scale⌋ := by
  have hscaled := mul_pos hvalue hscale
  have hlow := scaledForRegister_nonneg hscaled
  rw [encodeScaled, if_neg hvalue.not_ge, conv.toUInt16_spec _ (by linarith)
    ((scaledForRegister_lt_iff hscaled).mpr hfits), truncate_of_nonneg hlow]

theorem encodes_encodeScaled {line : InputLine K} (hscale : 0 < line.scale)
    (hfits : line.value * line.scale + 0.5 < 65536 - 1 / 2 ^ 38) :
    line.Encodes (1 / 2 + 1 / 2 ^ 37) (encodeScaled conv line.value line.scale) where
  nonpos h := encodeScaled_of_nonpos conv h _
  near h := by
    have hscale' : (0 : K) < line.scale := Nat.cast_pos.mpr hscale
    have hword := toNat_encodeScaled conv h hscale' hfits
    have herror := abs_le.mp (abs_scaledForRegister_sub_le (mul_pos h hscale') hfits)
    have hfloor := Int.floor_le (scaledForRegister line.value line.scale)
    have hfloor' := Int.lt_floor_add_one (scaledForRegister line.value line.scale)
    rw [← hword, Int.cast_natCast] at hfloor hfloor'
    rw [abs_le]
    constructor <;> linarith [herror.1, herror.2]

end Rounding

section Windows

variable {K : Type*} [Field K] [LinearOrder K] [FloorRing K] (conv : Conversions K)

theorem inputRegister_eq_getElem? (p : VehicleParams K) (address : Nat) :
    inputRegister conv p address =
      (inputLines p)[address]?.map fun line => encodeScaled conv line.value line.scale := by
  rcases lt_or_ge address paramCount with h | h
  · unfold paramCount at h
    interval_cases address <;> simp [inputRegister, inputLines]
  · rw [List.getElem?_eq_none (by simpa using h)]
    unfold paramCount at h
    unfold inputRegister
    split <;> first | omega | rfl

def InWindow (address quantity : UInt16) : Prop :=
  1 ≤ quantity.toNat ∧ address.toNat + quantity.toNat ≤ paramCount

instance (address quantity : UInt16) : Decidable (InWindow address quantity) :=
  inferInstanceAs (Decidable (1 ≤ quantity.toNat ∧ address.toNat + quantity.toNat ≤ paramCount))

theorem lt_one_iff {quantity : UInt16} : quantity < 1 ↔ ¬ 1 ≤ quantity.toNat := by
  rw [UInt16.lt_iff_toNat_lt, UInt16.toNat_one, not_le]

theorem readInputRegisters_of_inWindow {address quantity : UInt16}
    (h : InWindow address quantity) (out : Cells UInt16) (context : AppContext K) :
    readInputRegisters conv address quantity out context =
      (.none, fun i => if i < quantity.toNat then
        inputTable conv context.vehicle.params (address.toNat + i) else out i, context) := by
  have hpos : ¬ quantity < 1 := fun hempty => lt_one_iff.mp hempty h.1
  rw [readInputRegisters_eq, Registers.readTable, if_neg hpos, if_neg h.2.not_gt]

theorem readInputRegisters_of_not_inWindow {address quantity : UInt16}
    (h : ¬ InWindow address quantity) (out : Cells UInt16) (context : AppContext K) :
    (readInputRegisters conv address quantity out context).1 ≠ .none ∧
      (readInputRegisters conv address quantity out context).2 = (out, context) := by
  unfold readInputRegisters
  split_ifs with hpos hfit
  · exact ⟨by simp, rfl⟩
  · exact ⟨by simp, rfl⟩
  · rw [lt_one_iff, not_not] at hpos
    exact absurd ⟨hpos, not_lt.mp hfit⟩ h

def readWindow (context : AppContext K) (address quantity : UInt16) (out : Cells UInt16) :
    Option (List UInt16) :=
  match readInputRegisters conv address quantity out context with
  | (.none, registers, _) => some ((List.range quantity.toNat).map registers)
  | _ => none

/-- One request after the other for windows that follow each other, each into a buffer
of its own, and all the words they bring back. -/
def readWindows (context : AppContext K) (address : UInt16) :
    List (UInt16 × Cells UInt16) → Option (List UInt16)
  | [] => some []
  | (quantity, out) :: rest =>
      (readWindow conv context address quantity out).bind fun words =>
        (readWindows (readInputRegisters conv address quantity out context).2.2
          (address + quantity) rest).map (words ++ ·)

theorem readWindow_of_inWindow {address quantity : UInt16} (h : InWindow address quantity)
    (out : Cells UInt16) (context : AppContext K) :
    readWindow conv context address quantity out =
      some ((List.range' address.toNat quantity.toNat).map
        (inputTable conv context.vehicle.params)) := by
  rw [readWindow, readInputRegisters_of_inWindow conv h, List.range'_eq_map_range]
  simp only [List.map_map, Option.some.injEq]
  apply List.map_congr_left
  intro i hi
  simp [List.mem_range.mp hi]

theorem readWindow_of_not_inWindow {address quantity : UInt16}
    (h : ¬ InWindow address quantity) (out : Cells UInt16) (context : AppContext K) :
    readWindow conv context address quantity out = none := by
  have hrefused := (readInputRegisters_of_not_inWindow conv h out context).1
  unfold readWindow
  split
  · simp_all
  · rfl

/-! ## Windows that follow each other -/

def covered (parts : List (UInt16 × Cells UInt16)) : Nat :=
  (parts.map fun part => part.1.toNat).sum

theorem covered_cons (quantity : UInt16) (out : Cells UInt16)
    (rest : List (UInt16 × Cells UInt16)) :
    covered ((quantity, out) :: rest) = quantity.toNat + covered rest := rfl

theorem toNat_add_of_le_paramCount {address quantity : UInt16}
    (h : address.toNat + quantity.toNat ≤ paramCount) :
    (address + quantity).toNat = address.toNat + quantity.toNat := by
  rw [paramCount] at h
  rw [UInt16.toNat_add, Nat.mod_eq_of_lt (by omega)]

theorem readWindows_of_le (context : AppContext K) {address : UInt16}
    {parts : List (UInt16 × Cells UInt16)} (hpos : ∀ part ∈ parts, 1 ≤ part.1.toNat)
    (hfit : address.toNat + covered parts ≤ paramCount) :
    readWindows conv context address parts =
      some ((List.range' address.toNat (covered parts)).map
        (inputTable conv context.vehicle.params)) := by
  induction parts generalizing address with
  | nil => rfl
  | cons part rest ih =>
      obtain ⟨quantity, out⟩ := part
      rw [covered_cons] at hfit ⊢
      have hq : 1 ≤ quantity.toNat := hpos _ List.mem_cons_self
      have hwindow : InWindow address quantity := ⟨hq, by omega⟩
      have hnext := toNat_add_of_le_paramCount hwindow.2
      have hrest := @ih (address + quantity) (fun part h => hpos part (List.mem_cons_of_mem _ h))
        (by omega)
      rw [readWindows, readWindow_of_inWindow conv hwindow, readInputRegisters_context, hrest,
        hnext, ← List.range'_append_1, List.map_append]
      rfl

theorem readWindows_of_lt (context : AppContext K) {address : UInt16}
    {parts : List (UInt16 × Cells UInt16)} (hne : parts ≠ [])
    (hover : paramCount < address.toNat + covered parts) :
    readWindows conv context address parts = none := by
  induction parts generalizing address with
  | nil => exact absurd rfl hne
  | cons part rest ih =>
      obtain ⟨quantity, out⟩ := part
      rw [covered_cons] at hover
      rw [readWindows, readInputRegisters_context]
      by_cases hwindow : InWindow address quantity
      · have hnext := toNat_add_of_le_paramCount hwindow.2
        -- The first window fits, so the overlong rest cannot be empty.
        have hrest : rest ≠ [] := by
          rintro rfl
          have hfit := hwindow.2
          rw [covered, List.map_nil, List.sum_nil] at hover
          omega
        rw [@ih (address + quantity) hrest (by omega)]
        simp
      · rw [readWindow_of_not_inWindow conv hwindow]
        rfl

/-- A window may be cut anywhere. -/
theorem readWindows_eq_readWindow (context : AppContext K) (address quantity : UInt16)
    (out : Cells UInt16) {parts : List (UInt16 × Cells UInt16)} (hne : parts ≠ [])
    (hpos : ∀ part ∈ parts, 1 ≤ part.1.toNat) (hcover : covered parts = quantity.toNat) :
    readWindows conv context address parts = readWindow conv context address quantity out := by
  have hq : 1 ≤ quantity.toNat := by
    obtain ⟨⟨first, _⟩, rest, rfl⟩ := List.exists_cons_of_ne_nil hne
    have hfirst : 1 ≤ first.toNat := hpos _ List.mem_cons_self
    rw [covered_cons] at hcover
    omega
  by_cases hfit : address.toNat + quantity.toNat ≤ paramCount
  · rw [readWindows_of_le conv context hpos (by omega),
      readWindow_of_inWindow conv ⟨hq, hfit⟩, hcover]
  · rw [readWindows_of_lt conv context hne (by omega),
      readWindow_of_not_inWindow conv fun h => hfit h.2]

/-! ## Every window -/

/-- What one request for input registers does, whatever window it asks for. -/
structure WindowContract (tolerance : K) (context : AppContext K) (address quantity : UInt16)
    (out : Cells UInt16) : Prop where
  accepted_iff : (readInputRegisters conv address quantity out context).1 = .none ↔
    1 ≤ quantity.toNat ∧ address.toNat + quantity.toNat ≤ 7
  encoded : (readInputRegisters conv address quantity out context).1 = .none →
    ∀ i < quantity.toNat, ∃ line,
      (inputLines context.vehicle.params)[address.toNat + i]? = some line ∧
      line.Encodes tolerance ((readInputRegisters conv address quantity out context).2.1 i)
  untouched : (readInputRegisters conv address quantity out context).1 = .none →
    ∀ i, quantity.toNat ≤ i →
      (readInputRegisters conv address quantity out context).2.1 i = out i
  refused : (readInputRegisters conv address quantity out context).1 ≠ .none →
    (readInputRegisters conv address quantity out context).2.1 = out
  context_kept : (readInputRegisters conv address quantity out context).2.2 = context
  split : ∀ parts : List (UInt16 × Cells UInt16), parts ≠ [] →
    (∀ part ∈ parts, 1 ≤ part.1.toNat) → covered parts = quantity.toNat →
    readWindows conv context address parts = readWindow conv context address quantity out

variable [IsStrictOrderedRing K]

theorem encodes_inputTable {p : VehicleParams K}
    (hfits : ∀ line ∈ inputLines p, line.value * line.scale + 0.5 < 65536 - 1 / 2 ^ 38)
    {address : Nat} (h : address < paramCount) :
    ∃ line, (inputLines p)[address]? = some line ∧
      line.Encodes (1 / 2 + 1 / 2 ^ 37) (inputTable conv p address) := by
  rw [← length_inputLines p] at h
  refine ⟨(inputLines p)[address], List.getElem?_eq_getElem h, ?_⟩
  rw [inputTable, inputRegister_eq_getElem?, List.getElem?_eq_getElem h, Option.map_some,
    Option.getD_some]
  have hmem := List.getElem_mem h
  exact encodes_encodeScaled conv (scale_pos_of_mem_inputLines hmem) (hfits _ hmem)

/-- The input registers read consistently through every window. -/
theorem input_window_contract (context : AppContext K)
    (hfits : ∀ line ∈ inputLines context.vehicle.params,
      line.value * line.scale + 0.5 < 65536 - 1 / 2 ^ 38)
    (address quantity : UInt16) (out : Cells UInt16) :
    WindowContract conv (1 / 2 + 1 / 2 ^ 37) context address quantity out where
  accepted_iff := by
    by_cases hwindow : InWindow address quantity
    · rw [readInputRegisters_of_inWindow conv hwindow]
      exact iff_of_true rfl hwindow
    · exact iff_of_false (readInputRegisters_of_not_inWindow conv hwindow out context).1 hwindow
  encoded h i hi := by
    have hwindow : InWindow address quantity := by
      by_contra hnot
      exact (readInputRegisters_of_not_inWindow conv hnot out context).1 h
    have hlast := hwindow.2
    rw [readInputRegisters_of_inWindow conv hwindow]
    simp only [if_pos hi]
    exact encodes_inputTable conv hfits (by omega)
  untouched h i hi := by
    have hwindow : InWindow address quantity := by
      by_contra hnot
      exact (readInputRegisters_of_not_inWindow conv hnot out context).1 h
    rw [readInputRegisters_of_inWindow conv hwindow]
    exact if_neg hi.not_gt
  refused h := by
    have hnot : ¬ InWindow address quantity := fun hwindow => by
      rw [readInputRegisters_of_inWindow conv hwindow] at h
      exact h rfl
    rw [(readInputRegisters_of_not_inWindow conv hnot out context).2]
  context_kept := readInputRegisters_context conv address quantity out context
  split _ hne hpos hcover :=
    readWindows_eq_readWindow conv context address quantity out hne hpos hcover

theorem input_window_contract_main :
    WindowContract (K := ℚ) Conversions.wrapping (1 / 2 + 1 / 2 ^ 37) (appInit mainParams 0) 2 3
      fun _ => 0 :=
  input_window_contract Conversions.wrapping (appInit mainParams 0) (by decide +kernel) 2 3 _

/-- Two doubles at the edges: the last one below a half, and the one nearest to 65.5355. -/
def edgeParams : VehicleParams ℚ :=
  { mainParams with
    motorMaxTorqueNm := 1 / 2 - 1 / 2 ^ 54
    wheelRadiusM := 4611650834055299 / 70368744177664 }

/-- The exact products fit, yet one register is more than half a unit off and the other
has left its range. -/
theorem input_window_edges :
    Binary64.nearest edgeParams.motorMaxTorqueNm = edgeParams.motorMaxTorqueNm ∧
    Binary64.nearest edgeParams.wheelRadiusM = edgeParams.wheelRadiusM ∧
    (∀ line ∈ inputLines edgeParams, line.value * line.scale + 0.5 < 65536) ∧
    readWindow Conversions.wrapping (appInit edgeParams 0) 4 3 (fun _ => 0) =
      some [1, 910, 0] ∧
    ¬ WindowContract Conversions.wrapping (1 / 2) (appInit edgeParams 0) 4 3 fun _ => 0 := by
  refine ⟨by decide +kernel, by decide +kernel, by decide +kernel, by decide +kernel, ?_⟩
  intro hcontract
  obtain ⟨line, hline, hencodes⟩ := hcontract.encoded (by decide +kernel) 0 (by decide)
  have hvalue : line = ⟨1 / 2 - 1 / 2 ^ 54, 1⟩ := (Option.some.inj hline).symm
  have hcell : (readInputRegisters Conversions.wrapping 4 3 (fun _ => 0)
      (appInit edgeParams 0)).2.1 0 = 1 := by decide +kernel
  have hnear := hencodes.near (by rw [hvalue]; norm_num)
  rw [hcell, hvalue, UInt16.toNat_one] at hnear
  norm_num [abs_le] at hnear

end Windows

end DriveSim
