import DriveSim.Lib.Mutex

/-!
# A disciplined program is linearizable

An operation takes effect when its thread unlocks the mutex, or when it returns if it never
locks.  While a thread is inside, the memory differs from the state of the atomic machine
in guarded cells and in cells of that thread only, so no other thread can tell.
-/

namespace DriveSim.Lib

open Code

universe u v w

variable {Loc : Type u} {Val : Loc → Type v} {σ ι Op : Type*} {ρ : Type w} [DecidableEq Loc]

section Relation

variable (t : Threads Val ι Op ρ) (home : Loc → Option ι) (embed : σ → ∀ l, Val l)

/-- How thread `i` stands in the shared memory, and how in the atomic machine. -/
inductive Follows (s : Shared Val ι ρ) (a : Atomic σ ι Op ρ) (i : ι) : Prop
  | idle (hrunning : s.running i = none) (hstage : a.stage i = .idle) (howner : s.owner ≠ some i)
  | before {op : Op} {c : Code Val ρ} (hrunning : s.running i = some c)
      (hstage : a.stage i = .called op) (howner : s.owner ≠ some i)
      (hdisciplined : c.Disciplined home i .before)
      (hrun : ∀ m, SameHome home i m s.memory → c.run m = (t.code op).run m)
  | inside {op : Op} {c : Code Val ρ} (hrunning : s.running i = some c)
      (hstage : a.stage i = .called op) (howner : s.owner = some i)
      (hdisciplined : c.Disciplined home i .inside)
      (hrun : c.run s.memory = (t.code op).run (embed a.state))
  | after {r : ρ} {c : Code Val ρ} (hrunning : s.running i = some c)
      (hstage : a.stage i = .committed r) (howner : s.owner ≠ some i)
      (hdisciplined : c.Disciplined home i .after) (hrun : (c.run s.memory).1 = r)

/-- While a thread holds the mutex, only its own cells and the guarded ones may differ. -/
structure Simulates (s : Shared Val ι ρ) (a : Atomic σ ι Op ρ) : Prop where
  threads : ∀ i, Follows t home embed s a i
  free : s.owner = none → s.memory = embed a.state
  elsewhere : ∀ i, s.owner ≠ some i → SameHome home i (embed a.state) s.memory

end Relation

variable {t : Threads Val ι Op ρ} {home : Loc → Option ι} {embed : σ → ∀ l, Val l}
  {s s' : Shared Val ι ρ} {a a' : Atomic σ ι Op ρ}

theorem simulates_start (state : σ) :
    Simulates t home embed (.start (embed state)) ⟨state, fun _ => .idle⟩ where
  threads _ := .idle rfl rfl (Option.some_ne_none _).symm
  free _ := rfl
  elsewhere _ _ _ _ := rfl

theorem Simulates.orderly (h : Simulates t home embed s a) : s.Orderly home where
  running i c hc := by
    cases h.threads i with
    | idle hidle => simp [hidle] at hc
    | before hrunning _ howner hdisciplined =>
        obtain rfl := Option.some.inj (hc.symm.trans hrunning)
        exact ⟨_, hdisciplined, by simp [howner]⟩
    | inside hrunning _ howner hdisciplined =>
        obtain rfl := Option.some.inj (hc.symm.trans hrunning)
        exact ⟨_, hdisciplined, by simp [howner]⟩
    | after hrunning _ howner hdisciplined =>
        obtain rfl := Option.some.inj (hc.symm.trans hrunning)
        exact ⟨_, hdisciplined, by simp [howner]⟩
  owner i howner := by
    cases h.threads i with
    | idle _ _ hnot => exact absurd howner hnot
    | before hrunning | inside hrunning | after hrunning => simp [hrunning]

/-! ## What the other threads see of a step -/

structure Unseen (home : Loc → Option ι) (embed : σ → ∀ l, Val l) (s s' : Shared Val ι ρ)
    (a a' : Atomic σ ι Op ρ) (j : ι) : Prop where
  running : s'.running j = s.running j
  stage : a'.stage j = a.stage j
  owner : s'.owner = some j ↔ s.owner = some j
  memory : SameHome home j s'.memory s.memory
  held : s.owner = some j → s'.memory = s.memory ∧ embed a'.state = embed a.state

theorem Unseen.follows {j : ι} (h : Unseen home embed s s' a a' j)
    (hfollows : Follows t home embed s a j) : Follows t home embed s' a' j := by
  cases hfollows with
  | idle hrunning hstage howner =>
      exact .idle (h.running.trans hrunning) (h.stage.trans hstage) (h.owner.not.mpr howner)
  | before hrunning hstage howner hdisciplined hrun =>
      refine .before (h.running.trans hrunning) (h.stage.trans hstage) (h.owner.not.mpr howner)
        hdisciplined fun m hm => hrun m fun l hl => ?_
      rw [hm l hl, h.memory l hl]
  | inside hrunning hstage howner hdisciplined hrun =>
      obtain ⟨hsame, hstate⟩ := h.held howner
      refine .inside (h.running.trans hrunning) (h.stage.trans hstage) (h.owner.mpr howner)
        hdisciplined ?_
      rw [hsame, hstate, hrun]
  | after hrunning hstage howner hdisciplined hrun =>
      refine .after (h.running.trans hrunning) (h.stage.trans hstage) (h.owner.not.mpr howner)
        hdisciplined ?_
      rw [(hdisciplined.run_after h.memory).1, hrun]

variable {i : ι}

omit [DecidableEq Loc] in
theorem Unseen.of_quiet {j : ι} (hrunning : s'.running j = s.running j)
    (hstage : a'.stage j = a.stage j) (howner : s'.owner = s.owner)
    (hmemory : s'.memory = s.memory) (hstate : embed a'.state = embed a.state) :
    Unseen home embed s s' a a' j where
  running := hrunning
  stage := hstage
  owner := by rw [howner]
  memory l _ := congrFun hmemory l
  held _ := ⟨hmemory, hstate⟩

theorem Simulates.others [DecidableEq ι] (h : Simulates t home embed s a)
    (hself : Follows t home embed s' a' i)
    (hothers : ∀ j, j ≠ i → Unseen home embed s s' a a' j) (j : ι) :
    Follows t home embed s' a' j := by
  by_cases hj : j = i
  · rw [hj]
    exact hself
  · exact (hothers j hj).follows (h.threads j)

/-! ## One access of thread `i` -/

section Step

variable [DecidableEq ι] {m : Machine σ Op ρ}

theorem Simulates.call {op : Op} (hdisciplined : t.Disciplined home)
    (h : Simulates t home embed s a) (hidle : s.running i = none) (hruns : t.runs i op) :
    ∃ a', Trace (Atomic.Step m t.runs) a [.called i op] a' ∧
      Simulates t home embed (s.resume i (t.code op)) a' := by
  have hstage : a.stage i = .idle ∧ s.owner ≠ some i := by
    cases h.threads i with
    | idle _ hstage howner => exact ⟨hstage, howner⟩
    | before hrunning => simp [hidle] at hrunning
    | inside hrunning => simp [hidle] at hrunning
    | after hrunning => simp [hidle] at hrunning
  refine ⟨_, .single (.call hstage.1 hruns), h.others (.before (Function.update_self ..)
    (Function.update_self ..) hstage.2 (hdisciplined i op hruns) fun _ _ => rfl)
    fun j hj => ?_, h.free, h.elsewhere⟩
  exact .of_quiet (Function.update_of_ne hj _ _) (Function.update_of_ne hj _ _) rfl rfl rfl

theorem Simulates.lock {next : Code Val ρ} (h : Simulates t home embed s a)
    (hrunning : s.running i = some (.lock next)) (hfree : s.owner = none) :
    Simulates t home embed { s.resume i next with owner := some i } a := by
  have hnone : ∀ j, s.owner ≠ some j := fun j hj => by simp [hfree] at hj
  refine ⟨h.others (i := i) ?_ fun j hj => ?_, fun howner => ?_, fun j _ => h.elsewhere j (hnone j)⟩
  · cases h.threads i with
    | idle hidle => simp [hidle] at hrunning
    | before hrunning' hstage _ hdisciplined hrun =>
        obtain rfl := Option.some.inj (hrunning.symm.trans hrunning')
        refine .inside (Function.update_self ..) hstage rfl hdisciplined.2 ?_
        rw [← h.free hfree]
        exact hrun s.memory fun _ _ => rfl
    | inside _ _ howner => exact absurd howner (hnone i)
    | after hrunning' _ _ hdisciplined =>
        obtain rfl := Option.some.inj (hrunning.symm.trans hrunning')
        exact absurd hdisciplined.1 (by simp)
  · exact ⟨Function.update_of_ne hj _ _, rfl,
      ⟨fun howner => absurd (Option.some.inj howner).symm hj,
        fun howner => absurd howner (hnone j)⟩,
      fun _ _ => rfl, fun howner => absurd howner (hnone j)⟩
  · exact absurd howner (Option.some_ne_none i)

/-- The operation takes effect when its thread unlocks the mutex. -/
theorem Simulates.unlock {next : Code Val ρ} (himplements : t.Implements m embed)
    (h : Simulates t home embed s a) (hrunning : s.running i = some (.unlock next))
    (howner : s.owner = some i) :
    ∃ a', Trace (Atomic.Step m t.runs) a [] a' ∧
      Simulates t home embed { s.resume i next with owner := none } a' := by
  cases h.threads i with
  | idle hidle => simp [hidle] at hrunning
  | before _ _ hnot => exact absurd howner hnot
  | after _ _ hnot => exact absurd howner hnot
  | @inside op c hrunning' hstage _ hdisciplined hrun =>
      obtain rfl := Option.some.inj (hrunning.symm.trans hrunning')
      have hnext : next.run s.memory = ((m.step a.state op).1, embed (m.step a.state op).2) :=
        hrun.trans (himplements op a.state)
      have hkept : (next.run s.memory).2 = s.memory :=
        (hdisciplined.2.run_after fun _ _ => rfl).2
      have hmemory : s.memory = embed (m.step a.state op).2 := by
        rw [← hkept, hnext]
      have hother : ∀ j, j ≠ i → s.owner ≠ some j := by
        intro j hj hj'
        exact hj (Option.some.inj (hj'.symm.trans howner))
      refine ⟨_, .single (.commit hstage), h.others (.after (Function.update_self ..)
        (Function.update_self ..) (by simp) hdisciplined.2 (congrArg Prod.fst hnext))
        fun j hj => ?_, fun _ => hmemory, fun j _ l _ => congrFun hmemory.symm l⟩
      exact ⟨Function.update_of_ne hj _ _, Function.update_of_ne hj _ _,
        ⟨fun hnone => absurd hnone (by simp), fun hj' => absurd hj' (hother j hj)⟩,
        fun _ _ => rfl, fun hj' => absurd hj' (hother j hj)⟩

theorem Simulates.load {l : Loc} {next : Val l → Code Val ρ} (h : Simulates t home embed s a)
    (hrunning : s.running i = some (.load l next)) :
    Simulates t home embed (s.resume i (next (s.memory l))) a := by
  refine ⟨h.others (i := i) ?_ fun j hj => ?_, h.free, h.elsewhere⟩
  · cases h.threads i with
    | idle hidle => simp [hidle] at hrunning
    | before hrunning' hstage howner hdisciplined hrun =>
        obtain rfl := Option.some.inj (hrunning.symm.trans hrunning')
        obtain ⟨huse, hnext⟩ := hdisciplined
        obtain hown | ⟨_, hinside⟩ := huse
        · refine .before (Function.update_self ..) hstage howner (hnext _) fun m hm => ?_
          rw [← hrun m hm, run, hm l hown]
          rfl
        · exact absurd hinside (by simp)
    | inside hrunning' hstage howner hdisciplined hrun =>
        obtain rfl := Option.some.inj (hrunning.symm.trans hrunning')
        exact .inside (Function.update_self ..) hstage howner (hdisciplined.2 _) hrun
    | after hrunning' hstage howner hdisciplined hrun =>
        obtain rfl := Option.some.inj (hrunning.symm.trans hrunning')
        exact .after (Function.update_self ..) hstage howner (hdisciplined.2 _) hrun
  · exact .of_quiet (Function.update_of_ne hj _ _) rfl rfl rfl rfl

theorem Simulates.store {l : Loc} {v : Val l} {next : Code Val ρ}
    (h : Simulates t home embed s a) (hrunning : s.running i = some (.store l v next)) :
    Simulates t home embed
      { s.resume i next with memory := Function.update s.memory l v } a := by
  cases h.threads i with
  | idle hidle => simp [hidle] at hrunning
  | before hrunning' _ _ hdisciplined =>
      obtain rfl := Option.some.inj (hrunning.symm.trans hrunning')
      exact absurd hdisciplined.2.1 (by simp)
  | after hrunning' _ _ hdisciplined =>
      obtain rfl := Option.some.inj (hrunning.symm.trans hrunning')
      exact absurd hdisciplined.2.1 (by simp)
  | inside hrunning' hstage howner hdisciplined hrun =>
      obtain rfl := Option.some.inj (hrunning.symm.trans hrunning')
      obtain ⟨huse, _, hnext⟩ := hdisciplined
      have hother : ∀ j, s.owner = some j → j = i := fun j hj =>
        Option.some.inj (hj.symm.trans howner)
      have hmemory : ∀ j, j ≠ i → SameHome home j (Function.update s.memory l v) s.memory := by
        intro j hj l' hl'
        refine Function.update_of_ne (fun heq => hj ?_) _ _
        rw [heq] at hl'
        obtain hown | ⟨hguarded, _⟩ := huse
        · exact Option.some.inj (hl'.symm.trans hown)
        · exact absurd (hl'.symm.trans hguarded) (Option.some_ne_none j)
      refine ⟨h.others (.inside (Function.update_self ..) hstage howner hnext hrun)
        fun j hj => ?_, fun hnone => ?_, fun j hj l' hl' => ?_⟩
      · exact ⟨Function.update_of_ne hj _ _, rfl, Iff.rfl, hmemory j hj,
          fun hj' => absurd (hother j hj') hj⟩
      · exact absurd (howner.symm.trans hnone) (Option.some_ne_none i)
      · have hne : j ≠ i := fun heq => hj (heq ▸ howner)
        exact (h.elsewhere j hj l' hl').trans (hmemory j hne l' hl').symm

theorem Simulates.ret {r : ρ} (himplements : t.Implements m embed)
    (h : Simulates t home embed s a) (hrunning : s.running i = some (.done r)) :
    ∃ a', Trace (Atomic.Step m t.runs) a [.returned i r] a' ∧
      Simulates t home embed { s with running := Function.update s.running i none } a' := by
  cases h.threads i with
  | idle hidle => simp [hidle] at hrunning
  | inside hrunning' _ _ hdisciplined =>
      obtain rfl := Option.some.inj (hrunning.symm.trans hrunning')
      exact absurd rfl hdisciplined
  | before hrunning' hstage howner hdisciplined hrun =>
      -- an operation that never locks takes effect when it returns
      obtain rfl := Option.some.inj (hrunning.symm.trans hrunning')
      obtain ⟨rfl, hstate⟩ := Prod.mk.inj
        ((hrun (embed a.state) (h.elsewhere i howner)).trans (himplements _ a.state))
      have hcommit : Atomic.Step m t.runs a [] _ := .commit hstage
      refine ⟨_, (Trace.single hcommit).append (.single (.ret (Function.update_self ..))),
        h.others (.idle (Function.update_self ..) (Function.update_self ..) howner)
          fun j hj => ?_, fun hfree => ?_, fun j hj => ?_⟩
      · exact .of_quiet (Function.update_of_ne hj _ _)
          ((Function.update_of_ne hj _ _).trans (Function.update_of_ne hj _ _)) rfl rfl hstate.symm
      · exact (h.free hfree).trans hstate
      · rw [← hstate]
        exact h.elsewhere j hj
  | after hrunning' hstage howner hdisciplined hrun =>
      obtain rfl := Option.some.inj (hrunning.symm.trans hrunning')
      obtain rfl := hrun
      refine ⟨_, .single (.ret hstage), h.others (.idle (Function.update_self ..)
        (Function.update_self ..) howner) fun j hj => ?_, h.free, h.elsewhere⟩
      exact .of_quiet (Function.update_of_ne hj _ _) (Function.update_of_ne hj _ _) rfl rfl rfl

/-- One access of a thread is no step of the atomic machine, or one, or two. -/
theorem Simulates.step (hdisciplined : t.Disciplined home) (himplements : t.Implements m embed)
    {es : List (CallEvent ι Op ρ)} (h : Simulates t home embed s a) (hstep : s.Step t es s') :
    ∃ a', Trace (Atomic.Step m t.runs) a es a' ∧ Simulates t home embed s' a' := by
  cases hstep with
  | call hidle hruns => exact h.call hdisciplined hidle hruns
  | lock hrunning hfree => exact ⟨a, .nil a, h.lock hrunning hfree⟩
  | unlock hrunning howner => exact h.unlock himplements hrunning howner
  | load hrunning => exact ⟨a, .nil a, h.load hrunning⟩
  | store hrunning => exact ⟨a, .nil a, h.store hrunning⟩
  | ret hrunning => exact h.ret himplements hrunning

/-- Every trace of the threads is a trace of the atomic machine. -/
theorem Threads.linearizable (hdisciplined : t.Disciplined home)
    (himplements : t.Implements m embed) {state : σ} {es : List (CallEvent ι Op ρ)}
    (h : Trace (Shared.Step t) (.start (embed state)) es s) :
    ∃ a, Trace (Atomic.Step m t.runs) ⟨state, fun _ => .idle⟩ es a ∧
      Simulates t home embed s a :=
  h.simulated (fun _ _ _ _ hsim hstep => hsim.step hdisciplined himplements hstep)
    (simulates_start state)

end Step

end DriveSim.Lib
