import DriveSim.Lib.Machine
import Mathlib.Logic.Function.Basic

/-!
# Operations that take effect at one instant

Several threads call operations of one machine, and get their results later.  Somewhere
between call and return an operation takes effect, all at once; the order of these instants
is a history of the machine that explains all results.
-/

namespace DriveSim.Lib

/-! ## Steps and the events they show -/

inductive Trace {α ε : Type*} (step : α → List ε → α → Prop) : α → List ε → α → Prop
  | nil (a : α) : Trace step a [] a
  | snoc {a b c : α} {es es' : List ε} (h : Trace step a es b) (h' : step b es' c) :
      Trace step a (es ++ es') c

namespace Trace

variable {α β ε : Type*} {step : α → List ε → α → Prop} {step' : β → List ε → β → Prop}

theorem single {a b : α} {es : List ε} (h : step a es b) : Trace step a es b := .snoc (.nil a) h

theorem append {a b c : α} {es es' : List ε} (h : Trace step a es b) (h' : Trace step b es' c) :
    Trace step a (es ++ es') c := by
  induction h' with
  | nil => rwa [List.append_nil]
  | snoc _ hstep ih =>
      rw [← List.append_assoc]
      exact .snoc ih hstep

/-- Forward simulation. -/
theorem simulated {R : α → β → Prop}
    (hstep : ∀ a b es a', R a b → step a es a' → ∃ b', Trace step' b es b' ∧ R a' b') {a a' : α}
    {b : β} {es : List ε} (h : Trace step a es a') (hab : R a b) :
    ∃ b', Trace step' b es b' ∧ R a' b' := by
  induction h with
  | nil => exact ⟨b, .nil b, hab⟩
  | snoc _ hlast ih =>
      obtain ⟨b₁, htrace, hrel⟩ := ih
      obtain ⟨b', hlast', hrel'⟩ := hstep _ _ _ _ hrel hlast
      exact ⟨b', htrace.append hlast', hrel'⟩

end Trace

inductive CallEvent (ι Op ρ : Type*)
  | called (i : ι) (op : Op)
  | returned (i : ι) (r : ρ)

/-! ## Operations that take effect at one instant -/

inductive Stage (Op ρ : Type*)
  | idle
  | called (op : Op)
  | committed (r : ρ)

structure Atomic (σ ι Op ρ : Type*) where
  state : σ
  stage : ι → Stage Op ρ

/-- The threads use the machine: an operation takes effect some time between its call and
its return. -/
inductive Atomic.Step {σ ι Op ρ : Type*} [DecidableEq ι] (m : Machine σ Op ρ)
    (runs : ι → Op → Prop) : Atomic σ ι Op ρ → List (CallEvent ι Op ρ) → Atomic σ ι Op ρ → Prop
  | call {a : Atomic σ ι Op ρ} {i : ι} {op : Op} (hidle : a.stage i = .idle) (hruns : runs i op) :
      Step m runs a [.called i op] { a with stage := Function.update a.stage i (.called op) }
  | commit {a : Atomic σ ι Op ρ} {i : ι} {op : Op} (hcalled : a.stage i = .called op) :
      Step m runs a [] ⟨(m.step a.state op).2,
        Function.update a.stage i (.committed (m.step a.state op).1)⟩
  | ret {a : Atomic σ ι Op ρ} {i : ι} {r : ρ} (hcommitted : a.stage i = .committed r) :
      Step m runs a [.returned i r] { a with stage := Function.update a.stage i .idle }

/-! ## The order in which the operations take effect -/

structure Entry (ι Op ρ : Type*) where
  thread : ι
  op : Op
  result : ρ

section History

variable {σ ι Op ρ : Type*} [DecidableEq ι]

def CallEvent.op? (i : ι) : CallEvent ι Op ρ → Option Op
  | .called j op => if j = i then some op else none
  | .returned _ _ => none

def CallEvent.result? (i : ι) : CallEvent ι Op ρ → Option ρ
  | .called _ _ => none
  | .returned j r => if j = i then some r else none

def Entry.op? (i : ι) (e : Entry ι Op ρ) : Option Op := if e.thread = i then some e.op else none

def Entry.result? (i : ι) (e : Entry ι Op ρ) : Option ρ :=
  if e.thread = i then some e.result else none

def Stage.pending : Stage Op ρ → List Op
  | .idle => []
  | .called op => [op]
  | .committed _ => []

def Stage.withheld : Stage Op ρ → List ρ
  | .idle => []
  | .called _ => []
  | .committed r => [r]

/-- The machine, fed with the operations in the order of the log, gives every thread the
results it sees. -/
structure Atomic.Explains (m : Machine σ Op ρ) (runs : ι → Op → Prop) (s : σ)
    (es : List (CallEvent ι Op ρ)) (a : Atomic σ ι Op ρ) (log : List (Entry ι Op ρ)) : Prop where
  state : a.state = m.run s (log.map Entry.op)
  results : log.map Entry.result = m.outputs s (log.map Entry.op)
  called : ∀ i, es.filterMap (CallEvent.op? i) =
    log.filterMap (Entry.op? i) ++ (a.stage i).pending
  returned : ∀ i, log.filterMap (Entry.result? i) =
    es.filterMap (CallEvent.result? i) ++ (a.stage i).withheld
  logged : ∀ e ∈ log, runs e.thread e.op
  pending : ∀ i, ∀ op ∈ (a.stage i).pending, runs i op

variable {m : Machine σ Op ρ} {runs : ι → Op → Prop} {s : σ} {es es' : List (CallEvent ι Op ρ)}
  {a a' : Atomic σ ι Op ρ} {log : List (Entry ι Op ρ)}

theorem Atomic.Explains.quiet {i : ι} {stage : Stage Op ρ} (h : Atomic.Explains m runs s es a log)
    (hcalled : ∀ j, es'.filterMap (CallEvent.op? j) = if i = j then stage.pending else [])
    (hreturned : ∀ j, es'.filterMap (CallEvent.result? j) =
      if i = j then (a.stage i).withheld else [])
    (hstage : (a.stage i).pending = [] ∧ stage.withheld = [])
    (hpending : ∀ op ∈ stage.pending, runs i op) :
    Atomic.Explains m runs s (es ++ es') ⟨a.state, Function.update a.stage i stage⟩ log := by
  refine ⟨h.state, h.results, fun j => ?_, fun j => ?_, h.logged, fun j => ?_⟩
  · rw [List.filterMap_append, h.called, hcalled]
    dsimp only
    by_cases hj : i = j
    · rw [← hj, hstage.1, if_pos rfl, List.append_nil, Function.update_self]
    · rw [if_neg hj, List.append_nil, Function.update_of_ne (Ne.symm hj)]
  · rw [List.filterMap_append, h.returned, hreturned]
    dsimp only
    by_cases hj : i = j
    · rw [← hj, if_pos rfl, Function.update_self, hstage.2, List.append_nil]
    · rw [if_neg hj, List.append_nil, Function.update_of_ne (Ne.symm hj)]
  · dsimp only
    by_cases hj : i = j
    · rw [← hj, Function.update_self]
      exact hpending
    · rw [Function.update_of_ne (Ne.symm hj)]
      exact h.pending j

theorem Atomic.Explains.commit {i : ι} {op : Op} (h : Atomic.Explains m runs s es a log)
    (hcalled : a.stage i = .called op) :
    Atomic.Explains m runs s es ⟨(m.step a.state op).2,
      Function.update a.stage i (.committed (m.step a.state op).1)⟩
      (log ++ [⟨i, op, (m.step a.state op).1⟩]) := by
  have hruns : runs i op := h.pending i op (by simp [hcalled, Stage.pending])
  refine ⟨?_, ?_, fun j => ?_, fun j => ?_, fun e he => ?_, fun j => ?_⟩
  · rw [List.map_append, Machine.run_append, ← h.state]
    rfl
  · rw [List.map_append, List.map_append, Machine.outputs_append, ← h.results, ← h.state]
    rfl
  · rw [List.filterMap_append, h.called, List.append_assoc]
    by_cases hj : i = j
    · simp [← hj, hcalled, Entry.op?, Stage.pending]
    · simp [Function.update_of_ne (Ne.symm hj), Entry.op?, hj]
  · rw [List.filterMap_append, h.returned, List.append_assoc]
    by_cases hj : i = j
    · simp [← hj, hcalled, Entry.result?, Stage.withheld]
    · simp [Function.update_of_ne (Ne.symm hj), Entry.result?, hj]
  · obtain hold | hnew := List.mem_append.mp he
    · exact h.logged e hold
    · rw [List.mem_singleton.mp hnew]
      exact hruns
  · by_cases hj : i = j
    · simp [← hj, Stage.pending]
    · simpa [Function.update_of_ne (Ne.symm hj)] using h.pending j

theorem Atomic.Explains.mem_results (h : Atomic.Explains m runs s es a log) {i : ι} {r : ρ}
    (hreturned : CallEvent.returned i r ∈ es) : r ∈ m.outputs s (log.map Entry.op) := by
  have hseen : r ∈ es.filterMap (CallEvent.result? i) :=
    List.mem_filterMap.mpr ⟨_, hreturned, if_pos rfl⟩
  have hlogged : r ∈ log.filterMap (Entry.result? i) := by
    rw [h.returned]
    exact List.mem_append_left _ hseen
  obtain ⟨e, he, hresult⟩ := List.mem_filterMap.mp hlogged
  rw [Entry.result?] at hresult
  split_ifs at hresult
  rw [← h.results, ← Option.some.inj hresult]
  exact List.mem_map_of_mem he

theorem Atomic.Explains.step (h : Atomic.Explains m runs s es a log)
    (hstep : Atomic.Step m runs a es' a') :
    ∃ log', Atomic.Explains m runs s (es ++ es') a' log' := by
  cases hstep with
  | @call i op hidle hruns =>
      refine ⟨log, h.quiet (fun j => ?_) (fun j => ?_) ?_ ?_⟩
      · by_cases hj : i = j <;> simp [CallEvent.op?, Stage.pending, hj]
      · simp [CallEvent.result?, hidle, Stage.withheld]
      · simp [hidle, Stage.pending, Stage.withheld]
      · simpa [Stage.pending] using hruns
  | commit hcalled =>
      rw [List.append_nil]
      exact ⟨_, h.commit hcalled⟩
  | @ret i r hcommitted =>
      refine ⟨log, h.quiet (fun j => ?_) (fun j => ?_) ?_ ?_⟩
      · simp [CallEvent.op?, Stage.pending]
      · rw [hcommitted]
        by_cases hj : i = j <;> simp [CallEvent.result?, Stage.withheld, hj]
      · simp [hcommitted, Stage.pending, Stage.withheld]
      · simp [Stage.pending]

theorem Trace.explained (h : Trace (Atomic.Step m runs) ⟨s, fun _ => .idle⟩ es a) :
    ∃ log, Atomic.Explains m runs s es a log := by
  induction h with
  | nil => exact ⟨[], rfl, rfl, fun _ => rfl, fun _ => rfl, by simp, by simp [Stage.pending]⟩
  | snoc _ hstep ih =>
      obtain ⟨log, hlog⟩ := ih
      exact hlog.step hstep

end History

end DriveSim.Lib
