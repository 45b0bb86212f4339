import DriveSim.Lib.Atomic

/-!
# Threads that share memory under a mutex

The code of a thread loads and stores cells one at a time, and locks and unlocks one mutex.
In a disciplined program every cell is guarded by the mutex or used by one thread only, and
an operation locks the mutex at most once.  Such a program has no races, and whoever holds
the mutex can get to its end.
-/

namespace DriveSim.Lib

universe u v w

/-- The accesses of a thread to shared cells and to the mutex, up to a result. -/
inductive Code {Loc : Type u} (Val : Loc → Type v) (ρ : Type w)
  | done (r : ρ)
  | lock (next : Code Val ρ)
  | unlock (next : Code Val ρ)
  | load (l : Loc) (next : Val l → Code Val ρ)
  | store (l : Loc) (v : Val l) (next : Code Val ρ)

namespace Code

variable {Loc : Type u} {Val : Loc → Type v} {ρ ρ' : Type w}

protected def bind : Code Val ρ → (ρ → Code Val ρ') → Code Val ρ'
  | done r, f => f r
  | lock next, f => lock (next.bind f)
  | unlock next, f => unlock (next.bind f)
  | load l next, f => load l fun v => (next v).bind f
  | store l v next, f => store l v (next.bind f)

instance : Monad (Code Val) where
  pure := done
  bind := Code.bind

section Actions

variable {Val : Loc → Type w}

def read (l : Loc) : Code Val (Val l) := load l done

def write (l : Loc) (v : Val l) : Code Val PUnit := store l v (done ⟨⟩)

def acquire : Code Val PUnit := lock (done ⟨⟩)

def release : Code Val PUnit := unlock (done ⟨⟩)

theorem read_bind (l : Loc) (f : Val l → Code Val ρ) : read l >>= f = load l f := rfl

end Actions

def run [DecidableEq Loc] : Code Val ρ → (∀ l, Val l) → ρ × (∀ l, Val l)
  | done r, m => (r, m)
  | lock next, m => next.run m
  | unlock next, m => next.run m
  | load l next, m => (next (m l)).run m
  | store l v next, m => next.run (Function.update m l v)

theorem run_map [DecidableEq Loc] (f : ρ → ρ') (c : Code Val ρ) (m : ∀ l, Val l) :
    (f <$> c).run m = (f (c.run m).1, (c.run m).2) := by
  show (c.bind (done ∘ f)).run m = _
  induction c generalizing m with
  | done r => rfl
  | lock next ih | unlock next ih => exact ih m
  | load l next ih => exact ih (m l) m
  | store l v next ih => exact ih _

inductive Phase
  | before
  | inside
  | after

section Discipline

variable {ι : Type*} (home : Loc → Option ι) (i : ι)

/-- Thread `i` may use a cell of its own, or, as long as it holds the mutex, a guarded one. -/
def MayUse (phase : Phase) (l : Loc) : Prop :=
  home l = some i ∨ home l = none ∧ phase = .inside

def Disciplined : Code Val ρ → Phase → Prop
  | done _, phase => phase ≠ .inside
  | lock next, phase => phase = .before ∧ next.Disciplined .inside
  | unlock next, phase => phase = .inside ∧ next.Disciplined .after
  | load l next, phase => MayUse home i phase l ∧ ∀ v, (next v).Disciplined phase
  | store l _ next, phase => MayUse home i phase l ∧ phase = .inside ∧ next.Disciplined phase

end Discipline

variable {ι : Type*} {home : Loc → Option ι} {i : ι}

theorem Disciplined.map {c : Code Val ρ} {phase : Phase} (h : c.Disciplined home i phase)
    (f : ρ → ρ') : (f <$> c).Disciplined home i phase := by
  show (c.bind (done ∘ f)).Disciplined home i phase
  induction c generalizing phase with
  | done r => exact h
  | lock next ih | unlock next ih => exact ⟨h.1, ih h.2⟩
  | load l next ih => exact ⟨h.1, fun v => ih v (h.2 v)⟩
  | store l v next ih => exact ⟨h.1, h.2.1, ih h.2.2⟩

def SameHome (home : Loc → Option ι) (i : ι) (m m' : ∀ l, Val l) : Prop :=
  ∀ l, home l = some i → m l = m' l

/-- Outside the mutex a thread sees its own cells only, and changes none. -/
theorem Disciplined.run_after [DecidableEq Loc] {c : Code Val ρ} (h : c.Disciplined home i .after)
    {m m' : ∀ l, Val l} (hsame : SameHome home i m m') :
    (c.run m).1 = (c.run m').1 ∧ (c.run m').2 = m' := by
  induction c with
  | done r => exact ⟨rfl, rfl⟩
  | lock next ih => exact absurd h.1 (by simp)
  | unlock next ih => exact absurd h.1 (by simp)
  | load l next ih =>
      obtain ⟨huse, hnext⟩ := h
      obtain hown | ⟨_, hinside⟩ := huse
      · rw [run, run, ← hsame l hown]
        exact ih _ (hnext _)
      · exact absurd hinside (by simp)
  | store l v next ih => exact absurd h.2.1 (by simp)

end Code

/-! ## Threads -/

structure Threads {Loc : Type u} (Val : Loc → Type v) (ι Op : Type*) (ρ : Type w) where
  runs : ι → Op → Prop
  code : Op → Code Val ρ

/-- The memory, the holder of the mutex, and what every thread has yet to do. -/
structure Shared {Loc : Type u} (Val : Loc → Type v) (ι : Type*) (ρ : Type w) where
  memory : ∀ l, Val l
  owner : Option ι
  running : ι → Option (Code Val ρ)

variable {Loc : Type u} {Val : Loc → Type v} {σ ι Op : Type*} {ρ : Type w}

namespace Shared

def start (memory : ∀ l, Val l) : Shared Val ι ρ := ⟨memory, none, fun _ => none⟩

variable [DecidableEq Loc] [DecidableEq ι]

def resume (s : Shared Val ι ρ) (i : ι) (c : Code Val ρ) : Shared Val ι ρ :=
  { s with running := Function.update s.running i (some c) }

inductive Step (t : Threads Val ι Op ρ) :
    Shared Val ι ρ → List (CallEvent ι Op ρ) → Shared Val ι ρ → Prop
  | call {s : Shared Val ι ρ} {i : ι} {op : Op} (hidle : s.running i = none)
      (hruns : t.runs i op) : Step t s [.called i op] (s.resume i (t.code op))
  | lock {s : Shared Val ι ρ} {i : ι} {next : Code Val ρ}
      (hrunning : s.running i = some (.lock next)) (hfree : s.owner = none) :
      Step t s [] { s.resume i next with owner := some i }
  | unlock {s : Shared Val ι ρ} {i : ι} {next : Code Val ρ}
      (hrunning : s.running i = some (.unlock next)) (howner : s.owner = some i) :
      Step t s [] { s.resume i next with owner := none }
  | load {s : Shared Val ι ρ} {i : ι} {l : Loc} {next : Val l → Code Val ρ}
      (hrunning : s.running i = some (.load l next)) :
      Step t s [] (s.resume i (next (s.memory l)))
  | store {s : Shared Val ι ρ} {i : ι} {l : Loc} {v : Val l} {next : Code Val ρ}
      (hrunning : s.running i = some (.store l v next)) :
      Step t s [] { s.resume i next with memory := Function.update s.memory l v }
  | ret {s : Shared Val ι ρ} {i : ι} {r : ρ} (hrunning : s.running i = some (.done r)) :
      Step t s [.returned i r] { s with running := Function.update s.running i none }

end Shared

def Threads.Disciplined (t : Threads Val ι Op ρ) (home : Loc → Option ι) : Prop :=
  ∀ i op, t.runs i op → (t.code op).Disciplined home i .before

def Threads.Implements [DecidableEq Loc] (t : Threads Val ι Op ρ) (m : Machine σ Op ρ)
    (embed : σ → ∀ l, Val l) : Prop :=
  ∀ op s, (t.code op).run (embed s) = ((m.step s op).1, embed (m.step s op).2)

/-! ## Races -/

def Code.access? : Code Val ρ → Option (Loc × Bool)
  | .load l _ => some (l, false)
  | .store l _ _ => some (l, true)
  | _ => none

namespace Shared

def Accesses (s : Shared Val ι ρ) (i : ι) (l : Loc) (stores : Bool) : Prop :=
  ∃ c, s.running i = some c ∧ c.access? = some (l, stores)

/-- Two threads are about to use the same cell, and one of them stores. -/
def Races (s : Shared Val ι ρ) : Prop :=
  ∃ i j l x y, i ≠ j ∧ s.Accesses i l x ∧ s.Accesses j l y ∧ (x = true ∨ y = true)

/-- Every thread obeys its discipline, and is inside exactly while it holds the mutex. -/
structure Orderly (home : Loc → Option ι) (s : Shared Val ι ρ) : Prop where
  running : ∀ i c, s.running i = some c →
    ∃ phase, c.Disciplined home i phase ∧ (phase = .inside ↔ s.owner = some i)
  owner : ∀ i, s.owner = some i → s.running i ≠ none

variable {home : Loc → Option ι} {s s' : Shared Val ι ρ}

theorem Orderly.mayUse (h : s.Orderly home) {i : ι} {l : Loc} {x : Bool}
    (haccess : s.Accesses i l x) : home l = some i ∨ home l = none ∧ s.owner = some i := by
  obtain ⟨c, hrunning, haccess⟩ := haccess
  obtain ⟨phase, hdisciplined, hinside⟩ := h.running i c hrunning
  cases c with
  | done | lock | unlock => simp [Code.access?] at haccess
  | load l' next =>
      obtain ⟨rfl, rfl⟩ := Prod.mk.inj (Option.some.inj haccess)
      exact hdisciplined.1.imp_right fun huse => ⟨huse.1, hinside.mp huse.2⟩
  | store l' v next =>
      obtain ⟨rfl, rfl⟩ := Prod.mk.inj (Option.some.inj haccess)
      exact hdisciplined.1.imp_right fun huse => ⟨huse.1, hinside.mp huse.2⟩

theorem Orderly.not_races (h : s.Orderly home) : ¬ s.Races := by
  rintro ⟨i, j, l, x, y, hne, hi, hj, _⟩
  apply hne
  obtain hown | ⟨hguarded, howner⟩ := h.mayUse hi
  · obtain hown' | ⟨hguarded', _⟩ := h.mayUse hj
    · exact Option.some.inj (hown.symm.trans hown')
    · exact absurd (hown.symm.trans hguarded') (Option.some_ne_none i)
  · obtain hown' | ⟨_, howner'⟩ := h.mayUse hj
    · exact absurd (hown'.symm.trans hguarded) (Option.some_ne_none j)
    · exact Option.some.inj (howner.symm.trans howner')

/-! ## Progress -/

variable [DecidableEq Loc] [DecidableEq ι] {t : Threads Val ι Op ρ}

def Ends (t : Threads Val ι Op ρ) (s : Shared Val ι ρ) (i : ι) : Prop :=
  ∃ r s', Trace (Step t) s [.returned i r] s' ∧ s'.owner = none ∧
    ∀ j, j ≠ i → s'.running j = s.running j

theorem Ends.of_step {i : ι} {c : Code Val ρ} (hstep : Step t s [] s')
    (hrunning : s'.running = (s.resume i c).running) (h : s'.Ends t i) : s.Ends t i := by
  obtain ⟨r, s'', htrace, howner, hothers⟩ := h
  refine ⟨r, s'', (Trace.single hstep).append htrace, howner, fun j hj => ?_⟩
  rw [hothers j hj, hrunning]
  exact Function.update_of_ne hj _ _

theorem ends {i : ι} {c : Code Val ρ} {phase : Code.Phase} (hrunning : s.running i = some c)
    (hdisciplined : c.Disciplined home i phase) (hinside : phase = .inside ↔ s.owner = some i)
    (hfree : phase ≠ .inside → s.owner = none) : s.Ends t i := by
  induction c generalizing s phase with
  | done r =>
      exact ⟨r, _, .single (.ret hrunning), hfree hdisciplined,
        fun j hj => Function.update_of_ne hj _ _⟩
  | lock next ih =>
      obtain ⟨rfl, hnext⟩ := hdisciplined
      exact .of_step (.lock hrunning (hfree (by simp))) rfl
        (ih (Function.update_self ..) hnext (by simp) fun h => absurd rfl h)
  | unlock next ih =>
      obtain ⟨rfl, hnext⟩ := hdisciplined
      exact .of_step (.unlock hrunning (hinside.mp rfl)) rfl
        (ih (Function.update_self ..) hnext (by simp) fun _ => rfl)
  | load l next ih =>
      exact .of_step (.load hrunning) rfl
        (ih _ (Function.update_self ..) (hdisciplined.2 _) hinside hfree)
  | store l v next ih =>
      exact .of_step (.store hrunning) rfl
        (ih (Function.update_self ..) hdisciplined.2.2 hinside hfree)

/-- No operation is ever stuck: the holder of the mutex can finish, and then it can. -/
theorem Orderly.can_return (t : Threads Val ι Op ρ) (h : s.Orderly home) {i : ι}
    (hrunning : s.running i ≠ none) :
    ∃ es r s', Trace (Step t) s (es ++ [.returned i r]) s' := by
  obtain ⟨c, hc⟩ := Option.ne_none_iff_exists'.mp hrunning
  obtain ⟨phase, hdisciplined, hinside⟩ := h.running i c hc
  cases howner : s.owner with
  | none =>
      obtain ⟨r, s', htrace, _⟩ := ends hc hdisciplined hinside fun _ => howner
      exact ⟨[], r, s', htrace⟩
  | some j =>
      by_cases hj : j = i
      · rw [hj] at howner
        obtain ⟨r, s', htrace, _⟩ := ends hc hdisciplined hinside
          fun hnot => absurd (hinside.mpr howner) hnot
        exact ⟨[], r, s', htrace⟩
      · obtain ⟨c', hc'⟩ := Option.ne_none_iff_exists'.mp (h.owner j howner)
        obtain ⟨phase', hdisciplined', hinside'⟩ := h.running j c' hc'
        obtain ⟨r', s₁, htrace', hfree, hothers⟩ := ends hc' hdisciplined' hinside'
          fun hnot => absurd (hinside'.mpr howner) hnot
        have hout : phase ≠ .inside := by
          intro hphase
          exact hj (Option.some.inj (howner.symm.trans (hinside.mp hphase)))
        obtain ⟨r, s', htrace, _⟩ := ends ((hothers i (Ne.symm hj)).trans hc) hdisciplined
          (by simp [hout, hfree]) fun _ => hfree
        exact ⟨[.returned j r'], r, s', htrace'.append htrace⟩

end Shared

end DriveSim.Lib
