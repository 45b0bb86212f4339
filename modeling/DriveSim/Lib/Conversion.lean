import Mathlib.Algebra.Order.Floor.Ring
import Mathlib.Algebra.Order.Ring.Abs
import Mathlib.Tactic.Linarith

/-!
# Floating point to integer conversion in C

A conversion drops the fractional part.  The language fixes its result only when the
remaining integer fits the target type; otherwise nothing is known about the value.
`Conversions` states exactly that, so a result proved for every `Conversions` does
not depend on what a machine does out of range.  A `Conversion` that is in range gives
the same result on every machine.
-/

namespace DriveSim.Lib

variable {K : Type*} [Field K] [LinearOrder K] [FloorRing K]

/-- Rounding towards zero. -/
def truncate (x : K) : ℤ := if 0 ≤ x then ⌊x⌋ else ⌈x⌉

/-- The conversions `(uint16_t) x` and `(int16_t) x` of a machine. -/
structure Conversions (K : Type*) [Field K] [LinearOrder K] [FloorRing K] where
  toUInt16 : K → UInt16
  toInt16 : K → Int16
  toUInt16_spec : ∀ x, -1 < x → x < 65536 → ((toUInt16 x).toNat : ℤ) = truncate x
  toInt16_spec : ∀ x, -32769 < x → x < 32768 → (toInt16 x).toInt = truncate x

inductive Conversion (K : Type*)
  | toUInt16 (x : K)
  | toInt16 (x : K)
deriving DecidableEq

namespace Conversion

/-- The language fixes the result. -/
def InRange : Conversion K → Prop
  | toUInt16 x => -1 < x ∧ x < 65536
  | toInt16 x => -32769 < x ∧ x < 32768

instance : (c : Conversion K) → Decidable c.InRange
  | toUInt16 x => inferInstanceAs (Decidable (-1 < x ∧ x < 65536))
  | toInt16 x => inferInstanceAs (Decidable (-32769 < x ∧ x < 32768))

def SameOn (conv conv' : Conversions K) : Conversion K → Prop
  | toUInt16 x => conv.toUInt16 x = conv'.toUInt16 x
  | toInt16 x => conv.toInt16 x = conv'.toInt16 x

theorem InRange.sameOn {c : Conversion K} (h : c.InRange) (conv conv' : Conversions K) :
    c.SameOn conv conv' := by
  cases c with
  | toUInt16 x =>
      apply UInt16.toNat_inj.mp
      have hspec := conv.toUInt16_spec x h.1 h.2
      rw [← conv'.toUInt16_spec x h.1 h.2] at hspec
      exact_mod_cast hspec
  | toInt16 x =>
      apply Int16.toInt_inj.mp
      rw [conv.toInt16_spec x h.1 h.2, conv'.toInt16_spec x h.1 h.2]

end Conversion

theorem truncate_of_nonneg {x : K} (hx : 0 ≤ x) : truncate x = ⌊x⌋ := if_pos hx

theorem truncate_lt {x : K} {n : ℤ} (h : x < n) (hn : 0 < n) : truncate x < n := by
  unfold truncate
  split_ifs with hx
  · exact Int.floor_lt.mpr h
  · have hceil : ⌈x⌉ ≤ 0 := Int.ceil_le.mpr (by simpa using (not_le.mp hx).le)
    exact hceil.trans_lt hn

theorem intCast_le_iff_le_truncate {x : K} (hx : 0 ≤ x) (n : ℤ) :
    (n : K) ≤ x ↔ n ≤ truncate x := by
  rw [truncate_of_nonneg hx, Int.le_floor]

variable [IsStrictOrderedRing K]

@[simp] theorem truncate_intCast (n : ℤ) : truncate (n : K) = n := by
  simp [truncate]

theorem le_truncate {x : K} {n : ℤ} (h : (n : K) - 1 < x) (hn : n ≤ 0) : n ≤ truncate x := by
  unfold truncate
  split_ifs with hx
  · exact hn.trans (Int.floor_nonneg.mpr hx)
  · have hceil : (n : K) < (⌈x⌉ : K) + 1 := by linarith [Int.le_ceil x]
    exact Int.lt_add_one_iff.mp (by exact_mod_cast hceil)

namespace Conversions

variable (conv : Conversions K)

theorem toInt16_of_abs_lt {x : K} (h : |x| < 32768) : (conv.toInt16 x).toInt = truncate x := by
  have hx := abs_lt.mp h
  exact conv.toInt16_spec x (by linarith) hx.2

def wrapping : Conversions K where
  toUInt16 x := UInt16.ofInt (truncate x)
  toInt16 x := Int16.ofInt (truncate x)
  toUInt16_spec x hlo hhi := by
    have hle : 0 ≤ truncate x := le_truncate (by simpa using hlo) le_rfl
    have hlt : truncate x < 65536 := truncate_lt (by exact_mod_cast hhi) (by norm_num)
    rw [UInt16.ofInt, UInt16.toNat_ofNat', Nat.mod_eq_of_lt (by omega)]
    omega
  toInt16_spec x hlo hhi := by
    have hle : -32768 ≤ truncate x := le_truncate (by push_cast; linarith) (by norm_num)
    have hlt : truncate x < 32768 := truncate_lt (by exact_mod_cast hhi) (by norm_num)
    exact Int16.toInt_ofInt_of_le (by omega) (by omega)

end Conversions

end DriveSim.Lib
