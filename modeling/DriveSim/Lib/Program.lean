import Mathlib.Tactic.TypeStar

/-!
# Programs with a state that may stop for good

A program either returns a value and a new state, or it stops: because it waits for
ever, or because its behaviour is undefined.  `Wp` is the weakest precondition of a
postcondition on what it returns and of a condition on how it may stop.
-/

namespace DriveSim.Lib

inductive Halt
  | running
  | undefined
deriving DecidableEq

def Program (σ α : Type*) := σ → Except Halt (α × σ)

namespace Program

variable {σ α β : Type*}

instance : Monad (Program σ) where
  pure a := fun s => .ok (a, s)
  bind x f := fun s =>
    match x s with
    | .ok (a, s') => f a s'
    | .error h => .error h

def withState (f : σ → Program σ α) : Program σ α := fun s => f s s

def modify (f : σ → σ) : Program σ Unit := fun s => .ok ((), f s)

def halt (h : Halt) : Program σ α := fun _ => .error h

def Wp (H : Halt → Prop) (x : Program σ α) (Q : α → σ → Prop) (s : σ) : Prop :=
  match x s with
  | .ok (a, s') => Q a s'
  | .error h => H h

variable {H : Halt → Prop}

@[simp] theorem wp_pure (a : α) (Q : α → σ → Prop) (s : σ) :
    Wp H (pure a) Q s ↔ Q a s := Iff.rfl

@[simp] theorem wp_bind {σ : Type*} {α β : Type u} (x : Program σ α) (f : α → Program σ β)
    (Q : β → σ → Prop) (s : σ) :
    Wp H (x >>= f) Q s ↔ Wp H x (fun a s' => Wp H (f a) Q s') s := by
  show (match (match x s with
    | .ok (a, s') => f a s'
    | .error h => .error h) with
    | .ok (a, s') => Q a s'
    | .error h => H h) ↔ _
  unfold Wp
  cases x s with
  | ok r => rfl
  | error h => rfl

@[simp] theorem wp_withState (f : σ → Program σ α) (Q : α → σ → Prop) (s : σ) :
    Wp H (withState f) Q s ↔ Wp H (f s) Q s := Iff.rfl

@[simp] theorem wp_modify (f : σ → σ) (Q : Unit → σ → Prop) (s : σ) :
    Wp H (modify f) Q s ↔ Q () (f s) := Iff.rfl

theorem wp_mono {x : Program σ α} {Q Q' : α → σ → Prop} {s : σ} (h : Wp H x Q s)
    (himp : ∀ a s', Q a s' → Q' a s') : Wp H x Q' s := by
  unfold Wp at *
  cases hx : x s with
  | ok r =>
      rw [hx] at h
      exact himp r.1 r.2 h
  | error h' =>
      rw [hx] at h
      exact h

theorem wp_weaken {H' : Halt → Prop} {x : Program σ α} {Q : α → σ → Prop} {s : σ}
    (h : Wp H x Q s) (himp : ∀ halted, H halted → H' halted) : Wp H' x Q s := by
  unfold Wp at *
  cases hx : x s with
  | ok r =>
      rw [hx] at h
      exact h
  | error halted =>
      rw [hx] at h
      exact himp halted h

theorem wp_of_eq {x : Program σ α} {s s' : σ} {a : α} (hx : x s = .ok (a, s'))
    (Q : α → σ → Prop) : Wp H x Q s ↔ Q a s' := by
  rw [Wp, hx]

theorem bind_eq {σ : Type*} {α β : Type u} {x : Program σ α} {f : α → Program σ β} {s s' : σ}
    {a : α} (hx : x s = .ok (a, s')) : (x >>= f) s = f a s' := by
  show (match x s with
    | .ok (a, s') => f a s'
    | .error h => .error h) = _
  rw [hx]

theorem bind_error {σ : Type*} {α β : Type u} {x : Program σ α} {f : α → Program σ β} {s : σ}
    {halted : Halt} (hx : x s = .error halted) : (x >>= f) s = .error halted := by
  show (match x s with
    | .ok (a, s') => f a s'
    | .error h => .error h) = _
  rw [hx]

theorem wp_ok {x : Program σ α} {Q : α → σ → Prop} {s s' : σ} {a : α} (h : Wp H x Q s)
    (hx : x s = .ok (a, s')) : Q a s' := by
  rwa [Wp, hx] at h

theorem wp_error {x : Program σ α} {Q : α → σ → Prop} {s : σ} {halted : Halt} (h : Wp H x Q s)
    (hx : x s = .error halted) : H halted := by
  rwa [Wp, hx] at h

theorem exists_ok_of_map {ε : Type*} {r : Except ε α} {f : α → β} {b : β}
    (h : r.toOption.map f = some b) : ∃ a, r = .ok a ∧ f a = b := by
  cases r with
  | error e => simp [Except.toOption] at h
  | ok a => exact ⟨a, rfl, by simpa [Except.toOption] using h⟩

theorem wp_total {x : Program σ α} {Q : α → σ → Prop} {s : σ}
    (h : Wp (fun _ => False) x Q s) : ∃ a s', x s = .ok (a, s') ∧ Q a s' := by
  unfold Wp at h
  cases hx : x s with
  | ok r =>
      rw [hx] at h
      exact ⟨r.1, r.2, rfl, h⟩
  | error halted =>
      rw [hx] at h
      exact h.elim

/-- A weakest precondition also knows which run it speaks of. -/
theorem wp_run {x : Program σ α} {Q : α → σ → Prop} {s : σ} (h : Wp H x Q s) :
    Wp H x (fun a s' => x s = .ok (a, s') ∧ Q a s') s := by
  unfold Wp at *
  cases hx : x s with
  | ok r =>
      rw [hx] at h
      exact ⟨rfl, h⟩
  | error halted =>
      rw [hx] at h
      exact h

theorem wp_run_error {x : Program σ α} {Q : α → σ → Prop} {s : σ} (h : Wp H x Q s) :
    Wp (fun halted => x s = .error halted ∧ H halted) x Q s := by
  unfold Wp at *
  cases hx : x s with
  | ok r =>
      rw [hx] at h
      exact h
  | error halted =>
      rw [hx] at h
      exact ⟨rfl, h⟩

/-! ## Loops

A loop runs its body until it gives a result; with `fuel` rounds it may still be
running. -/

/-- `while (1) { body }`, where the body may return from the loop. -/
def loop {σ : Type*} {α : Type u} (body : Program σ (Option α)) : Nat → Program σ α
  | 0 => halt .running
  | fuel + 1 => do
      match ← body with
      | some a => return a
      | none => loop body fuel

section Loops

variable {σ : Type*} {α : Type u} {body : Program σ (Option α)} {Q : α → σ → Prop}

theorem wp_loop_succ (fuel : Nat) (s : σ) :
    Wp H (loop body (fuel + 1)) Q s ↔
      Wp H body (fun r s' => match r with
        | some a => Q a s'
        | none => Wp H (loop body fuel) Q s') s := by
  rw [loop, wp_bind]
  apply iff_of_eq
  congr 1
  ext r s'
  cases r <;> rfl

/-- Partial correctness: what the body keeps while it goes on holds of every round. -/
theorem wp_loop {I : σ → Prop} (hrunning : H .running)
    (hbody : ∀ s, I s → Wp H body (fun r s' => match r with
      | some a => Q a s'
      | none => I s') s) (fuel : Nat) {s : σ} (hI : I s) : Wp H (loop body fuel) Q s := by
  induction fuel generalizing s with
  | zero => exact hrunning
  | succ fuel ih =>
      rw [wp_loop_succ]
      apply wp_mono (hbody s hI)
      intro r s' h
      cases r with
      | some a => exact h
      | none => exact ih h

/-- Total correctness: with a measure that decreases, that much fuel is enough. -/
theorem wp_loop_total {I : σ → Prop} (measure : σ → Nat)
    (hbody : ∀ s, I s → Wp H body (fun r s' => match r with
      | some a => Q a s'
      | none => I s' ∧ measure s' < measure s) s) (fuel : Nat) {s : σ} (hI : I s)
    (hfuel : measure s < fuel) : Wp H (loop body fuel) Q s := by
  induction fuel generalizing s with
  | zero => exact absurd hfuel (Nat.not_lt_zero _)
  | succ fuel ih =>
      rw [wp_loop_succ]
      apply wp_mono (hbody s hI)
      intro r s' h
      cases r with
      | some a => exact h
      | none => exact ih h.1 (by omega)

theorem loop_succ (fuel : Nat) (s : σ) :
    loop body (fuel + 1) s = match body s with
      | .ok (some a, s') => .ok (a, s')
      | .ok (none, s') => loop body fuel s'
      | .error halted => .error halted := by
  rw [loop]
  cases hx : body s with
  | error halted => exact bind_error hx
  | ok r =>
      obtain ⟨r, s'⟩ := r
      rw [bind_eq hx]
      cases r <;> rfl

theorem loop_mono {fuel fuel' : Nat} (hle : fuel ≤ fuel') {s : σ}
    (h : loop body fuel s ≠ .error .running) : loop body fuel' s = loop body fuel s := by
  induction fuel generalizing fuel' s with
  | zero => exact absurd rfl h
  | succ fuel ih =>
      obtain ⟨fuel', rfl⟩ : ∃ n, fuel' = n + 1 := ⟨fuel' - 1, by omega⟩
      rw [loop_succ] at h ⊢
      rw [loop_succ]
      split
      · rfl
      · next hbody =>
          rw [hbody] at h
          exact ih (by omega) h
      · rfl

/-- Two runs of a loop that are both over have the same outcome. -/
theorem loop_unique {fuel fuel' : Nat} {s : σ} (h : loop body fuel s ≠ .error .running)
    (h' : loop body fuel' s ≠ .error .running) : loop body fuel s = loop body fuel' s := by
  obtain hle | hle := Nat.le_total fuel fuel'
  · exact (loop_mono hle h).symm
  · exact loop_mono hle h'

end Loops

end Program

end DriveSim.Lib
