import Mathlib.Algebra.Order.Floor.Ring
import Mathlib.Data.Int.Log
import Mathlib.Tactic.Linarith
import Mathlib.Tactic.Ring

/-!
# Rounding to double precision

Every basic operation on doubles gives the double nearest to the exact result, and of two
equally near ones the one with an even significand.  Here this rounding is a function on
an ordered field, so that exact values and the doubles among them stay comparable.  There
is no largest double: what overflows on a machine is merely large here.  The lemmas are
for positive values.
-/

namespace DriveSim.Lib.Binary64

section Definitions

variable {K : Type*} [Field K]

def twoPow (e : ℤ) : K := ((2 : ℕ) : K) ^ e

/-- `d` is a double. -/
def Representable (d : K) : Prop :=
  ∃ m e : ℤ, |m| < 2 ^ 53 ∧ -1074 ≤ e ∧ d = m * twoPow e

variable [LinearOrder K] [FloorRing K]

/-- The nearest integer, halves to the even one. -/
def roundEven (x : K) : ℤ :=
  if Int.fract x < 0.5 ∨ Int.fract x = 0.5 ∧ Even ⌊x⌋ then ⌊x⌋ else ⌊x⌋ + 1

/-- There are 53 significant bits, fewer only below the smallest normal number. -/
def ulpExponent (x : K) : ℤ := max (Int.log 2 |x| - 52) (-1074)

def ulp (x : K) : K := twoPow (ulpExponent x)

/-- The double that an operation with the exact result `x` gives. -/
def nearest (x : K) : K := roundEven (x / ulp x) * ulp x

end Definitions

/-! ## Powers of two -/

section Powers

variable {K : Type*} [Field K]

theorem twoPow_natCast (n : ℕ) : (twoPow n : K) = 2 ^ n := by
  rw [twoPow, zpow_natCast, Nat.cast_ofNat]

theorem twoPow_neg_natCast (n : ℕ) : (twoPow (-n) : K) = 1 / 2 ^ n := by
  rw [twoPow, zpow_neg, zpow_natCast, Nat.cast_ofNat, one_div]

variable [LinearOrder K] [IsStrictOrderedRing K]

theorem twoPow_pos (e : ℤ) : 0 < (twoPow e : K) := zpow_pos (by norm_num) e

theorem twoPow_add (e f : ℤ) : (twoPow (e + f) : K) = twoPow e * twoPow f :=
  zpow_add₀ (by norm_num) e f

theorem twoPow_le_twoPow {e f : ℤ} (h : e ≤ f) : (twoPow e : K) ≤ twoPow f :=
  zpow_le_zpow_right₀ (by norm_num) h

theorem twoPow_eq_mul_twoPow {e f : ℤ} (h : e ≤ f) :
    (twoPow f : K) = ((2 ^ (f - e).toNat : ℤ) : K) * twoPow e := by
  have hsplit : f = ((f - e).toNat : ℤ) + e := by omega
  calc (twoPow f : K) = twoPow (((f - e).toNat : ℤ) + e) := congrArg twoPow hsplit
    _ = ((2 ^ (f - e).toNat : ℤ) : K) * twoPow e := by
        rw [twoPow_add, twoPow_natCast]
        push_cast
        rfl

/-- A multiple of a power of two is one of every smaller power. -/
theorem exists_intCast_mul_twoPow {e f : ℤ} (h : e ≤ f) (m : ℤ) :
    ∃ n : ℤ, (m * twoPow f : K) = n * twoPow e :=
  ⟨m * 2 ^ (f - e).toNat, by rw [twoPow_eq_mul_twoPow h, ← mul_assoc, Int.cast_mul]⟩

theorem mul_twoPow_lt {m : ℤ} {n : ℕ} (h : m < 2 ^ n) (e : ℤ) :
    (m * twoPow e : K) < twoPow (n + e) := by
  rw [twoPow_add, twoPow_natCast]
  exact mul_lt_mul_of_pos_right (by exact_mod_cast h) (twoPow_pos e)

theorem mul_twoPow_le {m : ℤ} {n : ℕ} (h : m ≤ 2 ^ n) (e : ℤ) :
    (m * twoPow e : K) ≤ twoPow (n + e) := by
  rw [twoPow_add, twoPow_natCast]
  exact mul_le_mul_of_nonneg_right (by exact_mod_cast h) (twoPow_pos e).le

theorem twoPow_le_mul {m : ℤ} {n : ℕ} (h : 2 ^ n ≤ m) (e : ℤ) :
    (twoPow (n + e) : K) ≤ m * twoPow e := by
  rw [twoPow_add, twoPow_natCast]
  exact mul_le_mul_of_nonneg_right (by exact_mod_cast h) (twoPow_pos e).le

end Powers

/-! ## The nearest integer -/

section RoundEven

variable {K : Type*} [Field K] [LinearOrder K] [FloorRing K] {x : K} {n : ℤ}

theorem le_roundEven (h : (n : K) ≤ x) : n ≤ roundEven x := by
  have hfloor : n ≤ ⌊x⌋ := Int.le_floor.mpr h
  unfold roundEven
  split_ifs <;> omega

variable [IsStrictOrderedRing K]

theorem roundEven_le (h : x ≤ n) : roundEven x ≤ n := by
  rcases h.eq_or_lt with rfl | hlt
  · norm_num [roundEven]
  · have hfloor : ⌊x⌋ < n := Int.floor_lt.mpr hlt
    unfold roundEven
    split_ifs <;> omega

theorem abs_roundEven_sub_le (x : K) : |(roundEven x : K) - x| ≤ 1 / 2 := by
  have hsplit := Int.floor_add_fract x
  unfold roundEven
  norm_num
  split_ifs with h
  · have hfract : Int.fract x ≤ 1 / 2 := h.elim le_of_lt fun h => h.1.le
    have hnonneg := Int.fract_nonneg x
    rw [abs_le]
    constructor <;> linarith
  · have hfract : 1 / 2 ≤ Int.fract x := not_lt.mp fun hlow => h (Or.inl hlow)
    have hlt := Int.fract_lt_one x
    rw [abs_le]
    constructor <;> linarith

/-- An even integer also takes the half below it. -/
theorem le_roundEven_iff_of_even (hn : Even n) : n ≤ roundEven x ↔ (n : K) - 1 / 2 ≤ x := by
  constructor
  · intro h
    have herror := (abs_le.mp (abs_roundEven_sub_le x)).2
    have hcast : (n : K) ≤ roundEven x := by exact_mod_cast h
    linarith
  · intro h
    rcases le_or_gt (n : K) x with hle | hlt
    · exact le_roundEven hle
    · have hfloor : ⌊x⌋ = n - 1 := by
        rw [Int.floor_eq_iff]
        push_cast
        constructor <;> linarith
      have hfract : 1 / 2 ≤ Int.fract x := by
        have hsplit := Int.floor_add_fract x
        rw [hfloor] at hsplit
        push_cast at hsplit
        linarith
      have hodd : ¬ Even ⌊x⌋ := by
        rw [hfloor, Int.not_even_iff_odd]
        exact hn.sub_odd odd_one
      have hup : ¬ (Int.fract x < 0.5 ∨ Int.fract x = 0.5 ∧ Even ⌊x⌋) := by
        rintro (hlow | ⟨-, heven⟩)
        · norm_num at hlow
          exact hlow.not_ge hfract
        · exact hodd heven
      rw [roundEven, if_neg hup, hfloor]
      omega

end RoundEven

/-! ## The spacing of the doubles -/

section Spacing

variable {K : Type*} [Field K] [LinearOrder K] [FloorRing K] [IsStrictOrderedRing K]
  {x : K} {e : ℤ}

theorem twoPow_log_le (hx : 0 < x) : twoPow (Int.log 2 x) ≤ x :=
  Int.zpow_log_le_self one_lt_two hx

theorem log_lt_iff (hx : 0 < x) : Int.log 2 x < e ↔ x < twoPow e :=
  (Int.lt_zpow_iff_log_lt one_lt_two hx).symm

theorem ulpExponent_of_pos (hx : 0 < x) : ulpExponent x = max (Int.log 2 x - 52) (-1074) := by
  rw [ulpExponent, abs_of_pos hx]

theorem ulpExponent_le (hx : 0 < x) (he : -1074 ≤ e) (h : x < twoPow (53 + e)) :
    ulpExponent x ≤ e := by
  have hlt := (log_lt_iff hx).mpr h
  rw [ulpExponent_of_pos hx]
  omega

theorem ulpExponent_eq (he : -1074 ≤ e) (hle : twoPow (52 + e) ≤ x)
    (hlt : x < twoPow (53 + e)) : ulpExponent x = e := by
  have hx : 0 < x := (twoPow_pos _).trans_le hle
  have hlow := (log_lt_iff hx).not.mpr hle.not_gt
  have hhigh := (log_lt_iff hx).mpr hlt
  rw [ulpExponent_of_pos hx]
  omega

theorem ulp_pos (x : K) : 0 < ulp x := twoPow_pos _

theorem abs_nearest_sub_le (x : K) : |nearest x - x| ≤ ulp x / 2 := by
  have hsplit : nearest x - x = (roundEven (x / ulp x) - x / ulp x) * ulp x := by
    rw [nearest, sub_mul, div_mul_cancel₀ x (ulp_pos x).ne']
  rw [hsplit, abs_mul, abs_of_pos (ulp_pos x)]
  have herror := mul_le_mul_of_nonneg_right (abs_roundEven_sub_le (x / ulp x)) (ulp_pos x).le
  linarith

theorem abs_nearest_sub_le_of_lt (hx : 0 < x) (he : -1074 ≤ e) (h : x < twoPow (53 + e)) :
    |nearest x - x| ≤ twoPow e / 2 := by
  have hulp : ulp x ≤ twoPow e := twoPow_le_twoPow (ulpExponent_le hx he h)
  have herror := abs_nearest_sub_le x
  linarith

/-! ## Rounding never crosses a double -/

theorem mul_ulp_le_nearest {n : ℤ} (h : n * ulp x ≤ x) : n * ulp x ≤ nearest x := by
  have hquot : (n : K) ≤ x / ulp x := (le_div_iff₀ (ulp_pos x)).mpr h
  exact mul_le_mul_of_nonneg_right (by exact_mod_cast le_roundEven hquot) (ulp_pos x).le

theorem nearest_le_mul_ulp {n : ℤ} (h : x ≤ n * ulp x) : nearest x ≤ n * ulp x := by
  have hquot : x / ulp x ≤ n := (div_le_iff₀ (ulp_pos x)).mpr h
  exact mul_le_mul_of_nonneg_right (by exact_mod_cast roundEven_le hquot) (ulp_pos x).le

theorem Representable.le_nearest {d : K} (hd : Representable d) (hx : 0 < x) (h : d ≤ x) :
    d ≤ nearest x := by
  obtain ⟨m, e, hm, he, rfl⟩ := hd
  rcases lt_or_ge x (twoPow (53 + e)) with hlt | hge
  · obtain ⟨n, hn⟩ := exists_intCast_mul_twoPow (K := K) (ulpExponent_le hx he hlt) m
    rw [hn] at h ⊢
    exact mul_ulp_le_nearest h
  · -- Beyond the significand the power of two below `x` lies between.
    have hexp : 53 + e ≤ Int.log 2 x :=
      not_lt.mp fun hlow => hge.not_gt ((log_lt_iff hx).mp hlow)
    have hulp : ulpExponent x ≤ Int.log 2 x := by
      rw [ulpExponent_of_pos hx]
      omega
    obtain ⟨n, hn⟩ := exists_intCast_mul_twoPow (K := K) hulp 1
    rw [Int.cast_one, one_mul] at hn
    calc (m * twoPow e : K) ≤ twoPow (53 + e) := (mul_twoPow_lt (abs_lt.mp hm).2 e).le
      _ ≤ twoPow (Int.log 2 x) := twoPow_le_twoPow hexp
      _ = n * ulp x := hn
      _ ≤ nearest x := mul_ulp_le_nearest (hn ▸ twoPow_log_le hx)

theorem Representable.nearest_le {d : K} (hd : Representable d) (hx : 0 < x) (h : x ≤ d) :
    nearest x ≤ d := by
  obtain ⟨m, e, hm, he, rfl⟩ := hd
  have hlt : x < twoPow (53 + e) := h.trans_lt (mul_twoPow_lt (abs_lt.mp hm).2 e)
  obtain ⟨n, hn⟩ := exists_intCast_mul_twoPow (K := K) (ulpExponent_le hx he hlt) m
  rw [hn] at h ⊢
  exact nearest_le_mul_ulp h

theorem Representable.nearest_eq {d : K} (hd : Representable d) (hpos : 0 < d) :
    nearest d = d :=
  le_antisymm (hd.nearest_le hpos le_rfl) (hd.le_nearest hpos le_rfl)

theorem nearest_nonneg (hx : 0 < x) : 0 ≤ nearest x := by
  have hzero : Representable (0 : K) := ⟨0, 0, by norm_num, by norm_num, by simp⟩
  exact hzero.le_nearest hx hx.le

/-! ## Where a double is reached -/

omit [FloorRing K] in
theorem representable_of_le {m : ℤ} (hm : |m| ≤ 2 ^ 53) (he : -1074 ≤ e) :
    Representable (m * twoPow e : K) := by
  rcases hm.lt_or_eq with hlt | heq
  · exact ⟨m, e, hlt, he, rfl⟩
  · obtain ⟨k, hk⟩ : (2 : ℤ) ∣ m := by
      rw [← dvd_abs, heq]
      norm_num
    refine ⟨k, e + 1, ?_, by omega, ?_⟩
    · rw [hk, abs_mul, abs_two] at heq
      omega
    · rw [twoPow_eq_mul_twoPow (show e ≤ e + 1 by omega), ← mul_assoc, ← Int.cast_mul, hk]
      norm_num [mul_comm]

theorem representable_nearest (hx : 0 < x) : Representable (nearest x) := by
  have hlog : twoPow (Int.log 2 x) ≤ x := twoPow_log_le hx
  have hlt : x < twoPow (Int.log 2 x + 1) := (log_lt_iff hx).mp (by omega)
  have hbound : x ≤ ((2 ^ 53 : ℤ) : K) * ulp x := by
    have hexp : Int.log 2 x + 1 ≤ (53 : ℕ) + ulpExponent x := by
      rw [ulpExponent_of_pos hx]
      omega
    have hle := hlt.le.trans (twoPow_le_twoPow hexp)
    rw [twoPow_add, twoPow_natCast] at hle
    exact_mod_cast hle
  have hhigh : roundEven (x / ulp x) ≤ 2 ^ 53 :=
    roundEven_le ((div_le_iff₀ (ulp_pos x)).mpr hbound)
  have hlow : 0 ≤ roundEven (x / ulp x) :=
    le_roundEven (by rw [Int.cast_zero]; exact (div_pos hx (ulp_pos x)).le)
  refine representable_of_le ?_ (le_max_right _ _)
  rw [abs_of_nonneg hlow]
  exact hhigh

variable {m : ℤ}

/-- A double with an even significand takes what is half a spacing below it. -/
theorem le_nearest_iff (heven : Even m) (hlow : 2 ^ 52 < m) (hhigh : m ≤ 2 ^ 53)
    (he : -1074 ≤ e) (hx : 0 < x) :
    m * twoPow e ≤ nearest x ↔ (m : K) * twoPow e - twoPow e / 2 ≤ x := by
  have hulp : (0 : K) < twoPow e := twoPow_pos e
  have hdouble : Representable (m * twoPow e : K) :=
    representable_of_le (by rw [abs_of_pos (by omega)]; exact hhigh) he
  rcases le_or_gt (m * twoPow e : K) x with hge | hlt
  · exact iff_of_true (hdouble.le_nearest hx hge) (by linarith)
  rcases lt_or_ge x (twoPow (52 + e)) with hsmall | hlarge
  · -- The spacing is smaller here, but the power of two still lies between.
    have hpower : Representable (((2 ^ 52 : ℤ) : K) * twoPow e) :=
      representable_of_le (by norm_num) he
    replace hsmall : x < ((2 ^ 52 : ℤ) : K) * twoPow e :=
      hsmall.trans_le (twoPow_le_mul (le_refl (2 ^ 52 : ℤ)) e)
    have hgap : ((2 ^ 52 : ℤ) : K) + 1 ≤ m := by exact_mod_cast hlow
    have hstep := mul_le_mul_of_nonneg_right hgap hulp.le
    have hrounded := hpower.nearest_le hx hsmall.le
    exact iff_of_false (fun h => by linarith) (fun h => by linarith)
  · have hspacing : ulp x = twoPow e :=
      congrArg twoPow (ulpExponent_eq he hlarge (hlt.trans_le (mul_twoPow_le hhigh e)))
    rw [nearest, hspacing, mul_le_mul_iff_of_pos_right hulp, Int.cast_le,
      le_roundEven_iff_of_even heven, le_div_iff₀ hulp]
    exact iff_of_eq (congrArg (· ≤ x) (by ring))

omit [FloorRing K] in
/-- The double before one with a full significand is a spacing away. -/
theorem Representable.le_pred {d : K} (hd : Representable d) (hlow : 2 ^ 52 < m)
    (h : d < m * twoPow e) : d ≤ m * twoPow e - twoPow e := by
  obtain ⟨k, f, hk, -, rfl⟩ := hd
  have hpred : (m * twoPow e - twoPow e : K) = ((m - 1 : ℤ) : K) * twoPow e := by
    push_cast
    ring
  rw [hpred]
  rcases le_or_gt e f with hef | hfe
  · obtain ⟨n, hn⟩ := exists_intCast_mul_twoPow (K := K) hef k
    rw [hn, mul_lt_mul_iff_of_pos_right (twoPow_pos e), Int.cast_lt] at h
    rw [hn]
    exact mul_le_mul_of_nonneg_right (by exact_mod_cast Int.le_sub_one_of_lt h)
      (twoPow_pos e).le
  · calc (k * twoPow f : K) ≤ twoPow (53 + f) := (mul_twoPow_lt (abs_lt.mp hk).2 f).le
      _ ≤ twoPow (52 + e) := twoPow_le_twoPow (by omega)
      _ ≤ ((m - 1 : ℤ) : K) * twoPow e := twoPow_le_mul (Int.le_sub_one_of_lt hlow) e

end Spacing

/-! ## Adding a half -/

section Half

variable {K : Type*} [Field K] [LinearOrder K] [IsStrictOrderedRing K] {m e : ℤ}

theorem mul_pow_mul_twoPow_neg (m : ℤ) (p : ℕ) :
    ((m * 2 ^ p : ℤ) : K) * twoPow (-p) = m := by
  rw [twoPow_neg_natCast]
  push_cast
  rw [mul_assoc, mul_one_div_cancel (pow_ne_zero p two_ne_zero), mul_one]

theorem representable_intCast (h : |m| ≤ 2 ^ 53) : Representable (m : K) := by
  have hrep := representable_of_le (K := K) h (show (-1074 : ℤ) ≤ -(0 : ℕ) by omega)
  have hvalue := mul_pow_mul_twoPow_neg (K := K) m 0
  rw [pow_zero, mul_one] at hvalue
  rwa [hvalue] at hrep

theorem two_mul_add_one_mul_twoPow_neg (n q : ℕ) :
    (((2 * n + 1) * 2 ^ q : ℤ) : K) * twoPow (-(q + 1 : ℕ)) = n + 1 / 2 := by
  rw [twoPow_neg_natCast]
  push_cast
  field_simp
  ring

theorem representable_natCast_add_half {n : ℕ} (h : n < 2 ^ 52) :
    Representable ((n : K) + 1 / 2) := by
  rw [← two_mul_add_one_mul_twoPow_neg n 0]
  exact representable_of_le (by rw [abs_of_nonneg] <;> omega) (by omega)

theorem exists_spacing {n : ℕ} (hpos : 1 ≤ n) (hsmall : n < 2 ^ 52) :
    ∃ q < 52, 2 ^ 52 < (2 * n + 1) * 2 ^ q ∧ (n + 1) * 2 ^ (q + 1) ≤ 2 ^ 53 := by
  have hlow : 2 ^ Nat.log 2 n ≤ n := Nat.pow_log_le_self 2 (by omega)
  have hhigh : n + 1 ≤ 2 ^ (Nat.log 2 n + 1) := Nat.lt_pow_succ_log_self one_lt_two n
  obtain ⟨q, hq⟩ : ∃ q, Nat.log 2 n + 1 + q = 52 := by
    have hlog : Nat.log 2 n < 52 := Nat.log_lt_of_lt_pow (by omega) hsmall
    exact ⟨51 - Nat.log 2 n, by omega⟩
  refine ⟨q, by omega, ?_, ?_⟩
  · calc 2 ^ 52 = 2 * 2 ^ Nat.log 2 n * 2 ^ q := by rw [← pow_succ', ← pow_add, hq]
      _ < (2 * n + 1) * 2 ^ q := Nat.mul_lt_mul_of_pos_right (by omega) (by positivity)
  · calc (n + 1) * 2 ^ (q + 1) ≤ 2 ^ (Nat.log 2 n + 1) * 2 ^ (q + 1) :=
          Nat.mul_le_mul_right _ hhigh
      _ = 2 ^ 53 := by rw [← pow_add, ← add_assoc, hq]

variable [FloorRing K] {d : K}

/-- From one on, the rounding of the sum does no harm. -/
theorem succ_le_nearest_add_half_iff {n : ℕ} (hpos : 1 ≤ n) (hsmall : n < 2 ^ 52)
    (hd : Representable d) (hnonneg : 0 ≤ d) :
    (n : K) + 1 ≤ nearest (d + 1 / 2) ↔ (n : K) + 1 / 2 ≤ d := by
  obtain ⟨q, hq, hlow, hhigh⟩ := exists_spacing hpos hsmall
  have hstep : (2 * n + 1) * 2 ^ q < (n + 1) * 2 ^ (q + 1) := by
    rw [pow_succ', ← mul_assoc]
    exact Nat.mul_lt_mul_of_pos_right (by omega) (by positivity)
  zify at hlow hhigh hstep
  have hsucc := mul_pow_mul_twoPow_neg (K := K) (n + 1) (q + 1)
  have hhalf := two_mul_add_one_mul_twoPow_neg (K := K) n q
  have hreach := le_nearest_iff (K := K) (m := (n + 1) * 2 ^ (q + 1)) (e := -(q + 1 : ℕ))
    ((Int.even_pow.mpr ⟨even_two, q.succ_ne_zero⟩).mul_left _)
    (hlow.trans hstep) hhigh (by omega)
    (show 0 < d + 1 / 2 by linarith)
  rw [hsucc, Int.cast_add, Int.cast_natCast, Int.cast_one] at hreach
  have hulp : (0 : K) < twoPow (-(q + 1 : ℕ)) := twoPow_pos _
  rw [hreach]
  refine ⟨fun h => not_lt.mp fun hbelow => ?_, fun h => by linarith⟩
  have hpred := hd.le_pred (m := (2 * n + 1) * 2 ^ q) (e := -(q + 1 : ℕ))
    hlow (by rwa [hhalf])
  rw [hhalf] at hpred
  linarith

theorem one_le_nearest_add_half_iff (hnonneg : 0 ≤ d) :
    1 ≤ nearest (d + 1 / 2) ↔ 1 / 2 - 1 / 2 ^ 54 ≤ d := by
  have hvalue := mul_pow_mul_twoPow_neg (K := K) 1 53
  have hreach := le_nearest_iff (K := K) (m := 1 * 2 ^ 53) (e := -(53 : ℕ)) (x := d + 1 / 2)
    (by decide) (by norm_num) (by norm_num) (by omega) (by linarith)
  rw [hvalue, twoPow_neg_natCast, Int.cast_one] at hreach
  rw [hreach]
  constructor <;> intro h <;> norm_num at h ⊢ <;> linarith

theorem Representable.add_half_le {n : ℕ} (hd : Representable d) (hpos : 1 ≤ n)
    (h : (n : K) + 1 / 2 - 1 / 2 ^ 54 ≤ d) : (n : K) + 1 / 2 ≤ d := by
  by_contra hbelow
  have hhalf := two_mul_add_one_mul_twoPow_neg (K := K) n 51
  have hpred := hd.le_pred (m := (2 * n + 1) * 2 ^ 51) (e := -(51 + 1 : ℕ)) (by omega)
    (by rwa [hhalf, ← not_le])
  rw [hhalf, twoPow_neg_natCast] at hpred
  norm_num at h hpred
  linarith

/-- Adding a half and dropping the fractional part rounds every double to the nearest
integer, halves up, except that the last one below a half goes up too. -/
theorem floor_nearest_add_half (hd : Representable d) (hnonneg : 0 ≤ d) (hsmall : d < 2 ^ 51) :
    ⌊nearest (d + 1 / 2)⌋ =
      if Int.fract d < 1 / 2 - 1 / 2 ^ 54 then ⌊d⌋ else ⌊d⌋ + 1 := by
  obtain ⟨n, hn⟩ := Int.eq_ofNat_of_zero_le (Int.floor_nonneg.mpr hnonneg)
  have hsplit := Int.floor_add_fract d
  have hfract := Int.fract_lt_one d
  have hfract' := Int.fract_nonneg d
  rw [hn, Int.cast_natCast] at hsplit
  have hbound : n < 2 ^ 51 := by
    have hcast : (n : K) < ((2 ^ 51 : ℕ) : K) := by
      push_cast
      linarith
    exact_mod_cast hcast
  have hlow : (n : K) ≤ nearest (d + 1 / 2) := by
    have hdouble := representable_intCast (K := K) (m := n) (by rw [abs_of_nonneg] <;> omega)
    exact_mod_cast hdouble.le_nearest (by linarith) (by push_cast; linarith)
  have hhigh : nearest (d + 1 / 2) ≤ (n : K) + 1 + 1 / 2 := by
    have hdouble := representable_natCast_add_half (K := K) (n := n + 1) (by omega)
    rw [Nat.cast_succ] at hdouble
    exact hdouble.nearest_le (by linarith) (by linarith)
  have hup : (n : K) + 1 ≤ nearest (d + 1 / 2) ↔ 1 / 2 - 1 / 2 ^ 54 ≤ Int.fract d := by
    rcases Nat.eq_zero_or_pos n with rfl | hpos
    · have hzero : Int.fract d = d := by simpa using hsplit
      rw [hzero, Nat.cast_zero, zero_add]
      exact one_le_nearest_add_half_iff hnonneg
    · rw [succ_le_nearest_add_half_iff hpos (by omega) hd hnonneg]
      constructor
      · intro h
        have hsmall : (0 : K) < 1 / 2 ^ 54 := by positivity
        linarith
      · intro h
        exact hd.add_half_le hpos (by linarith)
  rw [hn]
  split_ifs with h
  · have hlt : nearest (d + 1 / 2) < (n : K) + 1 := not_le.mp (hup.not.mpr h.not_ge)
    exact Int.floor_eq_iff.mpr ⟨by exact_mod_cast hlow, by exact_mod_cast hlt⟩
  · refine Int.floor_eq_iff.mpr ⟨?_, ?_⟩ <;> push_cast
    · exact hup.mpr (not_lt.mp h)
    · linarith

end Half

end DriveSim.Lib.Binary64
