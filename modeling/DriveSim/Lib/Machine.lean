import Mathlib.Data.List.Basic

/-!
# Deterministic machines with outputs

A machine answers every input and moves to a new state.  Three rules relate runs:
`outputs_congr` compares machines that agree on the states of an invariant,
`Refines.outputs_eq` compares a machine with a more abstract one that sees only part of
its inputs, and `Unwinding.outputs_eq` compares a run with the same run after deleting
the inputs a hiding predicate selects, state by state.
-/

namespace DriveSim.Lib

structure Machine (σ ι ω : Type*) where
  step : σ → ι → ω × σ

namespace Machine

variable {σ τ ι κ ω υ : Type*}

def run (m : Machine σ ι ω) (s : σ) : List ι → σ
  | [] => s
  | i :: is => m.run (m.step s i).2 is

def outputs (m : Machine σ ι ω) (s : σ) : List ι → List ω
  | [] => []
  | i :: is => (m.step s i).1 :: m.outputs (m.step s i).2 is

@[simp] theorem run_nil (m : Machine σ ι ω) (s : σ) : m.run s [] = s := rfl

@[simp] theorem run_cons (m : Machine σ ι ω) (s : σ) (i : ι) (is : List ι) :
    m.run s (i :: is) = m.run (m.step s i).2 is := rfl

@[simp] theorem outputs_cons (m : Machine σ ι ω) (s : σ) (i : ι) (is : List ι) :
    m.outputs s (i :: is) = (m.step s i).1 :: m.outputs (m.step s i).2 is := rfl

theorem run_append (m : Machine σ ι ω) (s : σ) (is js : List ι) :
    m.run s (is ++ js) = m.run (m.run s is) js := by
  induction is generalizing s with
  | nil => rfl
  | cons i is ih => exact ih _

theorem outputs_append (m : Machine σ ι ω) (s : σ) (is js : List ι) :
    m.outputs s (is ++ js) = m.outputs s is ++ m.outputs (m.run s is) js := by
  induction is generalizing s with
  | nil => rfl
  | cons i is ih => exact congrArg (List.cons _) (ih _)

/-- The invariant rule. -/
theorem run_invariant {m : Machine σ ι ω} {I : σ → Prop}
    (hstep : ∀ s i, I s → I (m.step s i).2) {s : σ} (hs : I s) (is : List ι) :
    I (m.run s is) := by
  induction is generalizing s with
  | nil => exact hs
  | cons i is ih => exact ih (hstep s i hs)

theorem outputs_invariant {m : Machine σ ι ω} {I : σ → Prop} {P : ω → Prop}
    (hkeep : ∀ s i, I s → I (m.step s i).2) (hanswer : ∀ s i, I s → P (m.step s i).1) {s : σ}
    (hs : I s) (is : List ι) : ∀ o ∈ m.outputs s is, P o := by
  induction is generalizing s with
  | nil => exact List.forall_mem_nil P
  | cons i is ih => exact List.forall_mem_cons.mpr ⟨hanswer s i hs, ih (hkeep s i hs)⟩

/-- Two machines that take the same steps from the states of an invariant answer alike. -/
theorem outputs_congr {m n : Machine σ ι ω} {I : σ → Prop}
    (hkeep : ∀ s i, I s → I (m.step s i).2) (hstep : ∀ s i, I s → m.step s i = n.step s i)
    {s : σ} (hs : I s) (is : List ι) : m.outputs s is = n.outputs s is := by
  induction is generalizing s with
  | nil => rfl
  | cons i is ih =>
      rw [outputs_cons, outputs_cons, ih (hkeep s i hs), hstep s i hs]

/-! ## Refinement -/

/-- `m` refines `n`: an input of `m` that `input` hides from `n` is silent and keeps the
relation, and any other one is answered as `n` answers it. -/
structure Refines (m : Machine σ ι ω) (n : Machine τ κ υ) (input : ι → Option κ)
    (output : ω → Option υ) (R : σ → τ → Prop) : Prop where
  silent : ∀ s t i, R s t → input i = none →
    output (m.step s i).1 = none ∧ R (m.step s i).2 t
  visible : ∀ s t i k, R s t → input i = some k →
    output (m.step s i).1 = some (n.step t k).1 ∧ R (m.step s i).2 (n.step t k).2

namespace Refines

variable {m : Machine σ ι ω} {n : Machine τ κ υ} {input : ι → Option κ}
  {output : ω → Option υ} {R : σ → τ → Prop}

theorem run_related (h : Refines m n input output R) {s : σ} {t : τ} (hst : R s t)
    (is : List ι) : R (m.run s is) (n.run t (is.filterMap input)) := by
  induction is generalizing s t with
  | nil => exact hst
  | cons i is ih =>
      cases hi : input i with
      | none =>
          rw [List.filterMap_cons_none hi]
          exact ih (h.silent s t i hst hi).2
      | some k =>
          rw [List.filterMap_cons_some hi]
          exact ih (h.visible s t i k hst hi).2

theorem outputs_eq (h : Refines m n input output R) {s : σ} {t : τ} (hst : R s t)
    (is : List ι) :
    (m.outputs s is).filterMap output = n.outputs t (is.filterMap input) := by
  induction is generalizing s t with
  | nil => rfl
  | cons i is ih =>
      cases hi : input i with
      | none =>
          obtain ⟨hout, hrel⟩ := h.silent s t i hst hi
          rw [List.filterMap_cons_none hi, outputs_cons, List.filterMap_cons_none hout]
          exact ih hrel
      | some k =>
          obtain ⟨hout, hrel⟩ := h.visible s t i k hst hi
          rw [List.filterMap_cons_some hi, outputs_cons, outputs_cons,
            List.filterMap_cons_some hout, ih hrel]

end Refines

/-! ## Deleting hidden inputs -/

/-- The inputs that remain when every input hidden in the state it meets is deleted. -/
def purge (m : Machine σ ι ω) (hidden : σ → ι → Bool) (s : σ) : List ι → List ι
  | [] => []
  | i :: is =>
      if hidden s i then m.purge hidden (m.step s i).2 is
      else i :: m.purge hidden (m.step s i).2 is

/-- A hidden input is not observed and keeps the relation on its own; any other input
does the same to related states. -/
structure Unwinding (m : Machine σ ι ω) (hidden : σ → ι → Bool) (observe : ω → Option υ)
    (R : σ → σ → Prop) : Prop where
  hide : ∀ s t i, R s t → hidden s i = true →
    observe (m.step s i).1 = none ∧ R (m.step s i).2 t
  keep : ∀ s t i, R s t → hidden s i = false →
    observe (m.step s i).1 = observe (m.step t i).1 ∧ R (m.step s i).2 (m.step t i).2

theorem Unwinding.outputs_eq {m : Machine σ ι ω} {hidden : σ → ι → Bool}
    {observe : ω → Option υ} {R : σ → σ → Prop} (h : Unwinding m hidden observe R) {s t : σ}
    (hst : R s t) (is : List ι) :
    (m.outputs s is).filterMap observe =
      (m.outputs t (m.purge hidden s is)).filterMap observe := by
  induction is generalizing s t with
  | nil => rfl
  | cons i is ih =>
      rw [purge, outputs_cons]
      cases hi : hidden s i with
      | true =>
          obtain ⟨hout, hrel⟩ := h.hide s t i hst hi
          rw [List.filterMap_cons_none hout, if_pos rfl]
          exact ih hrel
      | false =>
          obtain ⟨hout, hrel⟩ := h.keep s t i hst hi
          rw [if_neg Bool.false_ne_true, outputs_cons, List.filterMap_cons,
            List.filterMap_cons, hout, ih hrel]

end Machine

end DriveSim.Lib
