import DriveSim.Lib.Program

/-!
# Two programs run side by side

Two programs are in step over a relation of their states if from related states they
return the same value in related states, or stop for the same reason.  There is one rule
for each way to compose programs; on the diagonal the relation is an invariant.
-/

namespace DriveSim.Lib.Program

variable {σ τ : Type*} {α β : Type u}

/-- Two runs with the same outcome, up to a relation of the final states. -/
inductive Alike (S : σ → τ → Prop) : Except Halt (α × σ) → Except Halt (α × τ) → Prop
  | returned (a : α) {s : σ} {t : τ} (h : S s t) : Alike S (.ok (a, s)) (.ok (a, t))
  | halted (halt : Halt) : Alike S (.error halt) (.error halt)

def InStep (S : σ → τ → Prop) (x : Program σ α) (y : Program τ α) : Prop :=
  ∀ s t, S s t → Alike S (x s) (y t)

variable {S : σ → τ → Prop}

/-! ## What the relation says of one run -/

theorem InStep.returned {x : Program σ α} {y : Program τ α} (h : InStep S x y) {s s' : σ} {t : τ}
    {a : α} (hst : S s t) (hx : x s = .ok (a, s')) : ∃ t', y t = .ok (a, t') ∧ S s' t' := by
  have halike := h s t hst
  rw [hx] at halike
  generalize hy : y t = r at halike
  cases halike with
  | returned a h => exact ⟨_, rfl, h⟩

theorem InStep.halted {x : Program σ α} {y : Program τ α} (h : InStep S x y) {s : σ} {t : τ}
    {halt : Halt} (hst : S s t) (hx : x s = .error halt) : y t = .error halt := by
  have halike := h s t hst
  rw [hx] at halike
  generalize hy : y t = r at halike
  cases halike with
  | halted halt => rfl

theorem InStep.returned_left {x : Program σ α} {y : Program τ α} (h : InStep S x y) {s : σ}
    {t t' : τ} {a : α} (hst : S s t) (hy : y t = .ok (a, t')) :
    ∃ s', x s = .ok (a, s') ∧ S s' t' := by
  have halike := h s t hst
  rw [hy] at halike
  generalize hx : x s = r at halike
  cases halike with
  | returned a h => exact ⟨_, rfl, h⟩

/-! ## The rules -/

namespace InStep

theorem pure (a : α) : InStep S (Pure.pure a) (Pure.pure a) := fun _ _ h => .returned a h

theorem halt (h : Halt) : InStep S (Program.halt h : Program σ α) (Program.halt h) :=
  fun _ _ _ => .halted h

theorem bind {x : Program σ α} {y : Program τ α} {f : α → Program σ β} {g : α → Program τ β}
    (hxy : InStep S x y) (hfg : ∀ a, InStep S (f a) (g a)) : InStep S (x >>= f) (y >>= g) := by
  intro s t hst
  cases hx : x s with
  | ok r =>
      obtain ⟨a, s'⟩ := r
      obtain ⟨t', hy, hst'⟩ := hxy.returned hst hx
      rw [bind_eq hx, bind_eq hy]
      exact hfg a s' t' hst'
  | error h =>
      rw [bind_error hx, bind_error (hxy.halted hst hx)]
      exact .halted h

theorem withState {f : σ → Program σ α} {g : τ → Program τ α}
    (h : ∀ s t, S s t → InStep S (f s) (g t)) :
    InStep S (Program.withState f) (Program.withState g) :=
  fun s t hst => h s t hst s t hst

theorem modify {f : σ → σ} {g : τ → τ} (h : ∀ s t, S s t → S (f s) (g t)) :
    InStep S (Program.modify f) (Program.modify g) :=
  fun s t hst => .returned () (h s t hst)

theorem ite (p : Prop) [Decidable p] {x x' : Program σ α} {y y' : Program τ α}
    (h : InStep S x y) (h' : InStep S x' y') :
    InStep S (if p then x else x') (if p then y else y') := by
  split
  · exact h
  · exact h'

theorem loop {body : Program σ (Option α)} {body' : Program τ (Option α)}
    (h : InStep S body body') (fuel : Nat) :
    InStep S (Program.loop body fuel) (Program.loop body' fuel) := by
  induction fuel with
  | zero => exact halt .running
  | succ fuel ih =>
      apply bind h
      intro r
      cases r with
      | none => exact ih
      | some a => exact pure a

end InStep

end DriveSim.Lib.Program
