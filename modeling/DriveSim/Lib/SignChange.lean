import Mathlib.Data.List.GetD
import Mathlib.Order.Lattice
import Mathlib.Tactic.Common

/-!
# Sequences that cannot jump over zero

A discrete intermediate value law: a sequence whose neighbouring values never have
strictly opposite signs has to stop at zero before its sign changes.
-/

namespace DriveSim.Lib

variable {α : Type*} [LinearOrder α] [Zero α]

/-- On the indices from `a` to `b`, neighbouring values never have opposite signs. -/
structure NoJump (f : ℕ → α) (a b : ℕ) : Prop where
  of_pos : ∀ t, a ≤ t → t < b → 0 < f t → 0 ≤ f (t + 1)
  of_neg : ∀ t, a ≤ t → t < b → f t < 0 → f (t + 1) ≤ 0

theorem NoJump.left {f : ℕ → α} {a b c : ℕ} (h : NoJump f a c) (hbc : b ≤ c) :
    NoJump f a b where
  of_pos t hat htb := h.of_pos t hat (htb.trans_le hbc)
  of_neg t hat htb := h.of_neg t hat (htb.trans_le hbc)

theorem noJump_getD {l : List α}
    (hpos : ∀ t, ∀ _ : t + 1 < l.length, 0 < l[t] → 0 ≤ l[t + 1])
    (hneg : ∀ t, ∀ _ : t + 1 < l.length, l[t] < 0 → l[t + 1] ≤ 0) {a b : ℕ}
    (hb : b < l.length) : NoJump (fun t => l.getD t 0) a b where
  of_pos t _ htb h := by
    rw [List.getD_eq_getElem _ _ (by omega)] at h ⊢
    exact hpos t (by omega) h
  of_neg t _ htb h := by
    rw [List.getD_eq_getElem _ _ (by omega)] at h ⊢
    exact hneg t (by omega) h

/-- Between a positive and a later negative value lies a zero from which the sequence
turns negative. -/
theorem NoJump.exists_zero_of_pos_of_neg {f : ℕ → α} {i j : ℕ} (hij : i < j)
    (h : NoJump f i j) (hi : 0 < f i) (hj : f j < 0) :
    ∃ l, i < l ∧ l < j ∧ f l = 0 ∧ f (l + 1) < 0 := by
  induction j with
  | zero => omega
  | succ j ih =>
      have hle : f j ≤ 0 := by
        by_contra hpos
        exact absurd hj (h.of_pos j (by omega) (by omega) (not_le.mp hpos)).not_gt
      have hij' : i < j := by
        rcases Nat.lt_succ_iff_lt_or_eq.mp hij with hlt | rfl
        · exact hlt
        · exact absurd hi hle.not_gt
      rcases hle.lt_or_eq with hneg | hzero
      · obtain ⟨l, hil, hlj, hl⟩ := ih hij' (h.left (by omega)) hneg
        exact ⟨l, hil, by omega, hl⟩
      · exact ⟨j, hij', by omega, hzero, hj⟩

/-- Without a zero strictly between `a` and `b` the sequence keeps its sign there. -/
theorem NoJump.same_sign {f : ℕ → α} {a b : ℕ} (hab : a < b) (h : NoJump f a b)
    (hne : ∀ t, a < t → t < b → f t ≠ 0) :
    (∀ t, a ≤ t → t ≤ b → 0 ≤ f t) ∨ (∀ t, a ≤ t → t ≤ b → f t ≤ 0) := by
  induction b with
  | zero => omega
  | succ b ih =>
      have hlast : ∀ t, a ≤ t → t ≤ b + 1 → (a ≤ t ∧ t ≤ b) ∨ t = b + 1 := by omega
      rcases Nat.lt_succ_iff_lt_or_eq.mp hab with hlt | rfl
      · have hb : f b ≠ 0 := hne b hlt (by omega)
        rcases ih hlt (h.left (by omega)) (fun t hat htb => hne t hat (by omega))
          with hpos | hneg
        · left
          intro t hat htb
          rcases hlast t hat htb with ht | rfl
          · exact hpos t ht.1 ht.2
          · exact h.of_pos b hlt.le (by omega) (lt_of_le_of_ne (hpos b hlt.le le_rfl) hb.symm)
        · right
          intro t hat htb
          rcases hlast t hat htb with ht | rfl
          · exact hneg t ht.1 ht.2
          · exact h.of_neg b hlt.le (by omega) (lt_of_le_of_ne (hneg b hlt.le le_rfl) hb)
      · have hends : ∀ t, a ≤ t → t ≤ a + 1 → t = a ∨ t = a + 1 := by omega
        rcases lt_trichotomy (f a) 0 with ha | ha | ha
        · right
          intro t hat htb
          rcases hends t hat htb with rfl | rfl
          · exact ha.le
          · exact h.of_neg a le_rfl (by omega) ha
        · rcases le_total 0 (f (a + 1)) with hnext | hnext
          · left
            intro t hat htb
            rcases hends t hat htb with rfl | rfl
            · exact ha.ge
            · exact hnext
          · right
            intro t hat htb
            rcases hends t hat htb with rfl | rfl
            · exact ha.le
            · exact hnext
        · left
          intro t hat htb
          rcases hends t hat htb with rfl | rfl
          · exact ha.le
          · exact h.of_pos a le_rfl (by omega) ha

end DriveSim.Lib
