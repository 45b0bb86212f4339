import Mathlib.Algebra.Order.BigOperators.Group.List
import Mathlib.Algebra.Order.Ring.Nat

/-!
# Streams that arrive over time

The elements still to come from a peer, each with the delay after the one before it,
and the way the stream ends.  Time is relative: moving on by some time shortens the
first delays.  `receive` is a blocking receive of a number of elements under one limit
for the whole call, and `Received` says in absolute times what it can return.
-/

namespace DriveSim.Lib

/-- What follows the last element: an end after some more time, or silence for ever. -/
inductive Ending
  | stillOpen
  | ended (orderly : Bool) (after : Nat)
deriving DecidableEq

def Ending.elapse (d : Nat) : Ending → Ending
  | .stillOpen => .stillOpen
  | .ended orderly after => .ended orderly (after - d)

@[simp] theorem Ending.elapse_zero (ending : Ending) : ending.elapse 0 = ending := by
  cases ending <;> rfl

structure TimedStream (α : Type*) where
  arrivals : List (Nat × α)
  ending : Ending

/-- Why a receive returned; `blocked` is a receive that never returns. -/
inductive Cause
  | complete
  | timedOut
  | ended (orderly : Bool)
  | blocked
deriving DecidableEq

structure Reception (α : Type*) where
  got : List α
  elapsed : Nat
  cause : Cause
  rest : TimedStream α

/-- A limit of `none` is never exceeded. -/
def Within (limit : Option Nat) (t : Nat) : Prop := ∀ b, limit = some b → t ≤ b

@[simp] theorem within_none (t : Nat) : Within none t := by simp [Within]

@[simp] theorem within_some (b t : Nat) : Within (some b) t ↔ t ≤ b := by simp [Within]

instance (limit : Option Nat) (t : Nat) : Decidable (Within limit t) :=
  match limit with
  | none => isTrue (within_none t)
  | some b => decidable_of_iff (t ≤ b) (within_some b t).symm

theorem Within.mono {limit : Option Nat} {t t' : Nat} (h : Within limit t) (hle : t' ≤ t) :
    Within limit t' := fun b hb => Nat.le_trans hle (h b hb)

namespace TimedStream

variable {α : Type*}

def elements (s : TimedStream α) : List α := s.arrivals.map Prod.snd

def time (s : TimedStream α) (n : Nat) : Nat := ((s.arrivals.take n).map Prod.fst).sum

def endTime (s : TimedStream α) : Option Nat :=
  match s.ending with
  | .stillOpen => none
  | .ended _ after => some (s.time s.arrivals.length + after)

def ArrivesWithin (s : TimedStream α) (limit : Option Nat) (n : Nat) : Prop :=
  n ≤ s.arrivals.length ∧ Within limit (s.time n)

def EndsWithin (s : TimedStream α) (limit : Option Nat) : Prop :=
  ∃ t, s.endTime = some t ∧ Within limit t

/-- The stream as it is when element `n` has just arrived and the first `n` are taken. -/
def drop (s : TimedStream α) (n : Nat) : TimedStream α := ⟨s.arrivals.drop n, s.ending⟩

/-- The delays after some time; elements that have arrived meanwhile have none left. -/
def elapseArrivals : Nat → List (Nat × α) → List (Nat × α)
  | _, [] => []
  | d, (gap, x) :: arrivals => (gap - d, x) :: elapseArrivals (d - gap) arrivals

def elapse (d : Nat) (s : TimedStream α) : TimedStream α :=
  ⟨elapseArrivals d s.arrivals, s.ending.elapse (d - s.time s.arrivals.length)⟩

instance (s : TimedStream α) (limit : Option Nat) (n : Nat) :
    Decidable (s.ArrivesWithin limit n) :=
  inferInstanceAs (Decidable (_ ∧ _))

instance (s : TimedStream α) (limit : Option Nat) : Decidable (s.EndsWithin limit) :=
  match h : s.endTime with
  | none => isFalse (by simp [EndsWithin, h])
  | some t => decidable_of_iff (Within limit t) (by simp [EndsWithin, h])

def expire (s : TimedStream α) : Option Nat → Reception α
  | none => ⟨[], 0, .blocked, s⟩
  | some b => ⟨[], b, .timedOut, s.elapse b⟩

def awaitEnd (s : TimedStream α) (limit : Option Nat) : Reception α :=
  match s.ending with
  | .ended orderly after =>
      if Within limit after then ⟨[], after, .ended orderly, ⟨[], .ended orderly 0⟩⟩
      else s.expire limit
  | .stillOpen => s.expire limit

/-- Waiting until an element or the end can be received; nothing is taken. -/
def await (s : TimedStream α) (limit : Option Nat) : Reception α :=
  match s.arrivals with
  | [] => s.awaitEnd limit
  | (gap, _) :: _ =>
      if Within limit gap then ⟨[], gap, .complete, s.elapse gap⟩ else s.expire limit

/-- Blocks until `n` elements have arrived, the stream has ended or the limit is over. -/
def receive : Option Nat → Nat → TimedStream α → Reception α
  | _, 0, s => ⟨[], 0, .complete, s⟩
  | limit, _ + 1, ⟨[], ending⟩ => awaitEnd ⟨[], ending⟩ limit
  | limit, n + 1, ⟨(gap, x) :: arrivals, ending⟩ =>
      if Within limit gap then
        let r := receive (limit.map (· - gap)) n ⟨arrivals, ending⟩
        ⟨x :: r.got, gap + r.elapsed, r.cause, r.rest⟩
      else expire ⟨(gap, x) :: arrivals, ending⟩ limit

inductive Received (s : TimedStream α) (limit : Option Nat) (n : Nat) : Reception α → Prop
  | complete (h : s.ArrivesWithin limit n) :
      Received s limit n ⟨s.elements.take n, s.time n, .complete, s.drop n⟩
  | timedOut (k b : Nat) (hlimit : limit = some b) (hk : k < n) (harrived : s.ArrivesWithin limit k)
      (hlate : ¬ s.ArrivesWithin limit (k + 1)) (hopen : ¬ s.EndsWithin limit) :
      Received s limit n
        ⟨s.elements.take k, b, .timedOut, (s.drop k).elapse (b - s.time k)⟩
  | ended (orderly : Bool) (after : Nat) (hending : s.ending = .ended orderly after)
      (hshort : s.arrivals.length < n) (hend : s.EndsWithin limit) :
      Received s limit n
        ⟨s.elements, s.time s.arrivals.length + after, .ended orderly, ⟨[], .ended orderly 0⟩⟩
  | blocked (hlimit : limit = none) (hending : s.ending = .stillOpen)
      (hshort : s.arrivals.length < n) :
      Received s limit n
        ⟨s.elements, s.time s.arrivals.length, .blocked, ⟨[], .stillOpen⟩⟩

inductive Awaited (s : TimedStream α) (limit : Option Nat) : Reception α → Prop
  | readable (h : s.ArrivesWithin limit 1) :
      Awaited s limit ⟨[], s.time 1, .complete, s.elapse (s.time 1)⟩
  | ended (orderly : Bool) (after : Nat) (hempty : s.arrivals = [])
      (hending : s.ending = .ended orderly after) (hend : s.EndsWithin limit) :
      Awaited s limit ⟨[], after, .ended orderly, ⟨[], .ended orderly 0⟩⟩
  | timedOut (b : Nat) (hlimit : limit = some b) (hnothing : ¬ s.ArrivesWithin limit 1)
      (hopen : ¬ s.EndsWithin limit) : Awaited s limit ⟨[], b, .timedOut, s.elapse b⟩
  | blocked (hlimit : limit = none) (hempty : s.arrivals = []) (hending : s.ending = .stillOpen) :
      Awaited s limit ⟨[], 0, .blocked, s⟩

/-! ## Times along a stream -/

@[simp] theorem elements_nil (ending : Ending) :
    (⟨[], ending⟩ : TimedStream α).elements = [] := rfl

@[simp] theorem elements_cons (gap : Nat) (x : α) (arrivals : List (Nat × α)) (ending : Ending) :
    (⟨(gap, x) :: arrivals, ending⟩ : TimedStream α).elements =
      x :: (⟨arrivals, ending⟩ : TimedStream α).elements := rfl

@[simp] theorem length_elements (s : TimedStream α) : s.elements.length = s.arrivals.length :=
  List.length_map ..

@[simp] theorem time_zero (s : TimedStream α) : s.time 0 = 0 := rfl

@[simp] theorem time_nil (ending : Ending) (n : Nat) :
    (⟨[], ending⟩ : TimedStream α).time n = 0 := by
  simp [time]

@[simp] theorem time_cons (gap : Nat) (x : α) (arrivals : List (Nat × α)) (ending : Ending)
    (n : Nat) :
    (⟨(gap, x) :: arrivals, ending⟩ : TimedStream α).time (n + 1) =
      gap + (⟨arrivals, ending⟩ : TimedStream α).time n := by
  simp [time]

theorem time_mono (s : TimedStream α) {m n : Nat} (h : m ≤ n) : s.time m ≤ s.time n := by
  have hprefix : s.arrivals.take m = (s.arrivals.take n).take m := by
    rw [List.take_take, Nat.min_eq_left h]
  rw [time, hprefix, List.map_take]
  exact List.Sublist.sum_le_sum (List.take_sublist m _) (fun _ _ => Nat.zero_le _)

theorem ArrivesWithin.mono {s : TimedStream α} {limit : Option Nat} {m n : Nat}
    (h : s.ArrivesWithin limit n) (hle : m ≤ n) : s.ArrivesWithin limit m :=
  ⟨Nat.le_trans hle h.1, h.2.mono (s.time_mono hle)⟩

@[simp] theorem arrivesWithin_zero (s : TimedStream α) (limit : Option Nat) :
    s.ArrivesWithin limit 0 :=
  ⟨Nat.zero_le _, fun _ _ => Nat.zero_le _⟩

theorem arrivesWithin_cons {gap : Nat} {x : α} {arrivals : List (Nat × α)} {ending : Ending}
    {limit : Option Nat} (hgap : Within limit gap) (n : Nat) :
    (⟨(gap, x) :: arrivals, ending⟩ : TimedStream α).ArrivesWithin limit (n + 1) ↔
      (⟨arrivals, ending⟩ : TimedStream α).ArrivesWithin (limit.map (· - gap)) n := by
  rw [ArrivesWithin, ArrivesWithin, time_cons, List.length_cons, Nat.add_le_add_iff_right]
  apply and_congr_right
  intro _
  cases limit with
  | none => simp
  | some b =>
      rw [within_some] at hgap
      rw [Option.map_some, within_some, within_some]
      omega

theorem endsWithin_cons {gap : Nat} {x : α} {arrivals : List (Nat × α)} {ending : Ending}
    {limit : Option Nat} (hgap : Within limit gap) :
    (⟨(gap, x) :: arrivals, ending⟩ : TimedStream α).EndsWithin limit ↔
      (⟨arrivals, ending⟩ : TimedStream α).EndsWithin (limit.map (· - gap)) := by
  cases ending with
  | stillOpen => simp [EndsWithin, endTime]
  | ended orderly after =>
      cases limit with
      | none => simp [EndsWithin, endTime]
      | some b =>
          rw [within_some] at hgap
          simp only [EndsWithin, endTime, List.length_cons, time_cons, Option.some.injEq,
            exists_eq_left', Option.map_some, within_some]
          omega

theorem EndsWithin.of_cons {gap : Nat} {x : α} {arrivals : List (Nat × α)} {ending : Ending}
    {limit : Option Nat}
    (h : (⟨(gap, x) :: arrivals, ending⟩ : TimedStream α).EndsWithin limit) :
    Within limit gap := by
  obtain ⟨t, ht, hwithin⟩ := h
  cases ending with
  | stillOpen => simp [endTime] at ht
  | ended orderly after =>
      simp only [endTime, List.length_cons, time_cons, Option.some.injEq] at ht
      exact hwithin.mono (by omega)

theorem EndsWithin.weaken {s : TimedStream α} {limit limit' : Option Nat}
    (h : s.EndsWithin limit) (hle : ∀ t, Within limit t → Within limit' t) :
    s.EndsWithin limit' := by
  obtain ⟨t, ht, hwithin⟩ := h
  exact ⟨t, ht, hle t hwithin⟩

theorem ArrivesWithin.weaken {s : TimedStream α} {limit limit' : Option Nat} {n : Nat}
    (h : s.ArrivesWithin limit n) (hle : ∀ t, Within limit t → Within limit' t) :
    s.ArrivesWithin limit' n :=
  ⟨h.1, hle _ h.2⟩

@[simp] theorem elements_drop (s : TimedStream α) (n : Nat) :
    (s.drop n).elements = s.elements.drop n :=
  List.map_drop ..

theorem drop_drop (s : TimedStream α) (m n : Nat) : (s.drop m).drop n = s.drop (m + n) := by
  rw [drop, drop, List.drop_drop]
  rfl

/-! ## Time that passes -/

theorem elapseArrivals_zero (arrivals : List (Nat × α)) :
    elapseArrivals 0 arrivals = arrivals := by
  induction arrivals with
  | nil => rfl
  | cons a arrivals ih => rw [elapseArrivals, Nat.zero_sub, ih, Nat.sub_zero]

@[simp] theorem elapse_zero (s : TimedStream α) : s.elapse 0 = s := by
  rw [elapse, elapseArrivals_zero, Nat.zero_sub, Ending.elapse_zero]

theorem elapse_nil (d : Nat) (ending : Ending) :
    (⟨[], ending⟩ : TimedStream α).elapse d = ⟨[], ending.elapse d⟩ := rfl

theorem elapse_cons {d gap : Nat} (hle : d ≤ gap) (x : α) (arrivals : List (Nat × α))
    (ending : Ending) :
    (⟨(gap, x) :: arrivals, ending⟩ : TimedStream α).elapse d =
      ⟨(gap - d, x) :: arrivals, ending⟩ := by
  have hrest : d - gap = 0 := Nat.sub_eq_zero_of_le hle
  have htotal : d - (gap + (⟨arrivals, ending⟩ : TimedStream α).time arrivals.length) = 0 := by
    omega
  rw [elapse, List.length_cons, time_cons, htotal, elapseArrivals, hrest, elapseArrivals_zero,
    Ending.elapse_zero]

theorem map_snd_elapseArrivals (d : Nat) (arrivals : List (Nat × α)) :
    (elapseArrivals d arrivals).map Prod.snd = arrivals.map Prod.snd := by
  induction arrivals generalizing d with
  | nil => rfl
  | cons a arrivals ih => rw [elapseArrivals, List.map_cons, List.map_cons, ih]

theorem length_elapseArrivals (d : Nat) (arrivals : List (Nat × α)) :
    (elapseArrivals d arrivals).length = arrivals.length := by
  simpa using congrArg List.length (map_snd_elapseArrivals d arrivals)

@[simp] theorem elements_elapse (s : TimedStream α) (d : Nat) :
    (s.elapse d).elements = s.elements :=
  map_snd_elapseArrivals d s.arrivals

def Sooner (arrivals arrivals' : List (Nat × α)) : Prop :=
  List.Forall₂ (fun a a' => a.1 ≤ a'.1 ∧ a.2 = a'.2) arrivals arrivals'

theorem sooner_elapseArrivals (d : Nat) (arrivals : List (Nat × α)) :
    Sooner (elapseArrivals d arrivals) arrivals := by
  induction arrivals generalizing d with
  | nil => exact .nil
  | cons a arrivals ih => exact .cons ⟨Nat.sub_le _ _, rfl⟩ (ih _)

theorem Sooner.sum_le {arrivals arrivals' : List (Nat × α)} (h : Sooner arrivals arrivals') :
    (arrivals.map Prod.fst).sum ≤ (arrivals'.map Prod.fst).sum := by
  induction h with
  | nil => exact le_rfl
  | cons h _ ih =>
      rw [List.map_cons, List.map_cons, List.sum_cons, List.sum_cons]
      exact Nat.add_le_add h.1 ih

theorem Sooner.map_snd_eq {arrivals arrivals' : List (Nat × α)} (h : Sooner arrivals arrivals') :
    arrivals.map Prod.snd = arrivals'.map Prod.snd := by
  induction h with
  | nil => rfl
  | cons h _ ih => rw [List.map_cons, List.map_cons, h.2, ih]

theorem time_elapse (s : TimedStream α) (d n : Nat) : (s.elapse d).time n = s.time n - d := by
  obtain ⟨arrivals, ending⟩ := s
  have hending : ∀ (arrivals : List (Nat × α)) (ending ending' : Ending) n,
      (⟨arrivals, ending⟩ : TimedStream α).time n =
        (⟨arrivals, ending'⟩ : TimedStream α).time n := fun _ _ _ _ => rfl
  rw [elapse, hending _ _ ending]
  induction arrivals generalizing d n with
  | nil => simp [elapseArrivals]
  | cons a arrivals ih =>
      obtain ⟨gap, x⟩ := a
      cases n with
      | zero => simp
      | succ n =>
          rw [elapseArrivals, time_cons, time_cons, ih]
          omega

/-! ## The receive meets its description -/

theorem silent_of_no_limit {s : TimedStream α} (hfirst : ¬ s.ArrivesWithin none 1)
    (hopen : ¬ s.EndsWithin none) : s.arrivals = [] ∧ s.ending = .stillOpen := by
  obtain ⟨arrivals, ending⟩ := s
  cases arrivals with
  | cons a arrivals => exact absurd ⟨by simp, within_none _⟩ hfirst
  | nil =>
      cases ending with
      | stillOpen => exact ⟨rfl, rfl⟩
      | ended orderly after => exact absurd ⟨_, rfl, within_none _⟩ hopen

theorem Received.expire {s : TimedStream α} {limit : Option Nat} {n : Nat}
    (hfirst : ¬ s.ArrivesWithin limit 1) (hopen : ¬ s.EndsWithin limit) :
    Received s limit (n + 1) (s.expire limit) := by
  cases limit with
  | some b =>
      exact .timedOut 0 b rfl (Nat.succ_pos n) (arrivesWithin_zero s _) hfirst hopen
  | none =>
      obtain ⟨arrivals, ending⟩ := s
      obtain ⟨rfl, rfl⟩ := silent_of_no_limit hfirst hopen
      exact .blocked rfl rfl (Nat.succ_pos n)

theorem Awaited.expire {s : TimedStream α} {limit : Option Nat}
    (hfirst : ¬ s.ArrivesWithin limit 1) (hopen : ¬ s.EndsWithin limit) :
    Awaited s limit (s.expire limit) := by
  cases limit with
  | some b => exact .timedOut b rfl hfirst hopen
  | none =>
      obtain ⟨hempty, hending⟩ := silent_of_no_limit hfirst hopen
      exact .blocked rfl hempty hending

theorem Received.awaitEnd (ending : Ending) (limit : Option Nat) (n : Nat) :
    Received (⟨[], ending⟩ : TimedStream α) limit (n + 1)
      (TimedStream.awaitEnd ⟨[], ending⟩ limit) := by
  have hnothing : ¬ (⟨[], ending⟩ : TimedStream α).ArrivesWithin limit 1 := by
    simp [ArrivesWithin]
  cases ending with
  | stillOpen => exact Received.expire hnothing (by simp [EndsWithin, endTime])
  | ended orderly after =>
      by_cases hwithin : Within limit after
      · have hend : (⟨[], .ended orderly after⟩ : TimedStream α).EndsWithin limit :=
          ⟨after, by simp [endTime], hwithin⟩
        simpa [TimedStream.awaitEnd, hwithin] using
          Received.ended (s := ⟨[], .ended orderly after⟩) (n := n + 1) orderly after rfl
            (Nat.succ_pos n) hend
      · have hopen : ¬ (⟨[], .ended orderly after⟩ : TimedStream α).EndsWithin limit := by
          simpa [EndsWithin, endTime] using hwithin
        simpa [TimedStream.awaitEnd, hwithin] using Received.expire hnothing hopen

theorem awaited (s : TimedStream α) (limit : Option Nat) : Awaited s limit (s.await limit) := by
  obtain ⟨arrivals, ending⟩ := s
  cases arrivals with
  | cons a arrivals =>
      obtain ⟨gap, x⟩ := a
      by_cases hgap : Within limit gap
      · have hfirst : (⟨(gap, x) :: arrivals, ending⟩ : TimedStream α).ArrivesWithin limit 1 := by
          simpa [ArrivesWithin] using hgap
        simpa [await, hgap] using Awaited.readable hfirst
      · simp only [await, if_neg hgap]
        apply Awaited.expire
        · simpa [ArrivesWithin] using hgap
        · exact fun hend => hgap hend.of_cons
  | nil =>
      cases ending with
      | stillOpen => exact Awaited.expire (by simp [ArrivesWithin]) (by simp [EndsWithin, endTime])
      | ended orderly after =>
          by_cases hwithin : Within limit after
          · have hend : (⟨[], .ended orderly after⟩ : TimedStream α).EndsWithin limit :=
              ⟨after, by simp [endTime], hwithin⟩
            simpa [await, awaitEnd, hwithin] using Awaited.ended orderly after rfl rfl hend
          · simpa [await, awaitEnd, hwithin] using
              Awaited.expire (by simp [ArrivesWithin])
                (by simpa [EndsWithin, endTime] using hwithin)

theorem Received.cons {gap : Nat} {x : α} {arrivals : List (Nat × α)} {ending : Ending}
    {limit : Option Nat} {n : Nat} {r : Reception α} (hgap : Within limit gap)
    (h : Received ⟨arrivals, ending⟩ (limit.map (· - gap)) n r) :
    Received ⟨(gap, x) :: arrivals, ending⟩ limit (n + 1)
      ⟨x :: r.got, gap + r.elapsed, r.cause, r.rest⟩ := by
  cases h with
  | complete h =>
      simpa [TimedStream.drop] using Received.complete ((arrivesWithin_cons (x := x) hgap n).mpr h)
  | timedOut k b hlimit hk harrived hlate hopen =>
      obtain ⟨total, rfl, rfl⟩ : ∃ total, limit = some total ∧ total - gap = b := by
        simpa using hlimit
      rw [within_some] at hgap
      have hstep := Received.timedOut (s := ⟨(gap, x) :: arrivals, ending⟩) (n := n + 1) (k + 1)
        total rfl (Nat.succ_lt_succ hk)
        ((arrivesWithin_cons (by simpa using hgap) k).mpr harrived)
        (fun hnext => hlate ((arrivesWithin_cons (by simpa using hgap) (k + 1)).mp hnext))
        (fun hend => hopen ((endsWithin_cons (by simpa using hgap)).mp hend))
      have htotal : gap + (total - gap) = total := by omega
      simpa [TimedStream.drop, htotal, Nat.sub_sub] using hstep
  | ended orderly after hending hshort hend =>
      have hending' : ending = .ended orderly after := hending
      have hstep := Received.ended (s := ⟨(gap, x) :: arrivals, ending⟩) (n := n + 1) orderly
        after hending (Nat.succ_lt_succ hshort) ((endsWithin_cons hgap).mpr hend)
      simpa [Nat.add_assoc] using hstep
  | blocked hlimit hending hshort =>
      have hnone : limit = none := by simpa using hlimit
      simpa using Received.blocked (s := ⟨(gap, x) :: arrivals, ending⟩) (n := n + 1) hnone
        hending (Nat.succ_lt_succ hshort)

/-- By induction on the number of elements: each one that arrives in time shortens the
limit of the rest. -/
theorem received (s : TimedStream α) (limit : Option Nat) (n : Nat) :
    Received s limit n (receive limit n s) := by
  induction n generalizing limit s with
  | zero => exact .complete (arrivesWithin_zero _ _)
  | succ n ih =>
      obtain ⟨arrivals, ending⟩ := s
      cases arrivals with
      | nil => exact Received.awaitEnd ending limit n
      | cons a arrivals =>
          obtain ⟨gap, x⟩ := a
          rw [receive]
          split_ifs with hgap
          · exact Received.cons hgap (ih _ _)
          · apply Received.expire
            · simpa [ArrivesWithin] using hgap
            · exact fun hend => hgap hend.of_cons

/-- Nothing is lost and nothing comes twice: what was received and what is still to come
make up the stream. -/
theorem Received.elements_eq {s : TimedStream α} {limit : Option Nat} {n : Nat}
    {r : Reception α} (h : Received s limit n r) : r.got ++ r.rest.elements = s.elements := by
  cases h with
  | complete h => simp
  | timedOut k b hlimit hk harrived hlate hopen => simp
  | ended orderly after hending hshort hend => simp
  | blocked hlimit hending hshort => simp

theorem Awaited.elements_eq {s : TimedStream α} {limit : Option Nat} {r : Reception α}
    (h : Awaited s limit r) : r.got ++ r.rest.elements = s.elements := by
  cases h with
  | readable h => simp
  | ended orderly after hempty hending hend => simp [elements, hempty]
  | timedOut b hlimit hnothing hopen => simp
  | blocked hlimit hempty hending => rfl

theorem Awaited.got_eq {s : TimedStream α} {limit : Option Nat} {r : Reception α}
    (h : Awaited s limit r) : r.got = [] := by
  cases h <;> rfl

theorem Received.elapsed_le {s : TimedStream α} {b n : Nat} {r : Reception α}
    (h : Received s (some b) n r) : r.cause ≠ .blocked ∧ r.elapsed ≤ b := by
  cases h with
  | complete harrives => exact ⟨Cause.noConfusion, (within_some _ _).mp harrives.2⟩
  | timedOut k b' hlimit hk harrived hlate hopen =>
      exact ⟨Cause.noConfusion, (Option.some.inj hlimit).ge⟩
  | ended orderly after hending hshort hend =>
      obtain ⟨t, ht, hwithin⟩ := hend
      simp only [endTime, hending, Option.some.injEq] at ht
      exact ⟨Cause.noConfusion, ht ▸ (within_some _ _).mp hwithin⟩
  | blocked hlimit => exact absurd hlimit (Option.some_ne_none b)

theorem Awaited.elapsed_le {s : TimedStream α} {b : Nat} {r : Reception α}
    (h : Awaited s (some b) r) : r.cause ≠ .blocked ∧ r.elapsed ≤ b := by
  cases h with
  | readable harrives => exact ⟨Cause.noConfusion, (within_some _ _).mp harrives.2⟩
  | ended orderly after hempty hending hend =>
      obtain ⟨t, ht, hwithin⟩ := hend
      have htime : t = after := by simpa [endTime, hending, hempty] using ht.symm
      exact ⟨Cause.noConfusion, htime ▸ (within_some _ _).mp hwithin⟩
  | timedOut b' hlimit => exact ⟨Cause.noConfusion, (Option.some.inj hlimit).ge⟩
  | blocked hlimit => exact absurd hlimit (Option.some_ne_none b)

/-! ## What is left of a stream -/

def Ends (s : TimedStream α) : Prop := s.ending ≠ .stillOpen

instance (s : TimedStream α) : Decidable s.Ends := inferInstanceAs (Decidable (_ ≠ _))

def weight (s : TimedStream α) : Nat :=
  s.arrivals.length + s.time s.arrivals.length +
    match s.ending with
    | .stillOpen => 0
    | .ended _ after => after

theorem weight_cons (gap : Nat) (x : α) (arrivals : List (Nat × α)) (ending : Ending) :
    (⟨(gap, x) :: arrivals, ending⟩ : TimedStream α).weight =
      gap + 1 + (⟨arrivals, ending⟩ : TimedStream α).weight := by
  simp only [weight, List.length_cons, time_cons]
  omega

theorem endTime_elapse (s : TimedStream α) (d : Nat) :
    (s.elapse d).endTime = s.endTime.map (· - d) := by
  have hlength : (s.elapse d).arrivals.length = s.arrivals.length :=
    length_elapseArrivals d s.arrivals
  have hending : (s.elapse d).ending = s.ending.elapse (d - s.time s.arrivals.length) := rfl
  rw [endTime, endTime, hending, hlength, time_elapse]
  cases s.ending with
  | stillOpen => rfl
  | ended orderly after =>
      simp only [Ending.elapse, Option.map_some, Option.some.injEq]
      omega

theorem ends_elapse {s : TimedStream α} (h : s.Ends) (d : Nat) : (s.elapse d).Ends := by
  obtain ⟨arrivals, ending⟩ := s
  cases ending with
  | stillOpen => exact absurd rfl h
  | ended orderly after => exact Ending.noConfusion

theorem weight_elapse_le (s : TimedStream α) (d : Nat) : (s.elapse d).weight ≤ s.weight := by
  have hlength : (s.elapse d).arrivals.length = s.arrivals.length :=
    length_elapseArrivals d s.arrivals
  have hending : (s.elapse d).ending = s.ending.elapse (d - s.time s.arrivals.length) := rfl
  rw [weight, weight, hlength, time_elapse, hending]
  cases s.ending with
  | stillOpen =>
      simp only [Ending.elapse]
      omega
  | ended orderly after =>
      simp only [Ending.elapse]
      omega

/-- A receive that returns has used up what it took and the time it waited. -/
structure UsesUp (s : TimedStream α) (r : Reception α) : Prop where
  returns : r.cause ≠ .blocked
  ends : r.rest.Ends
  weight_eq : r.rest.weight + r.got.length + r.elapsed = s.weight

theorem UsesUp.expire_cons {gap : Nat} {x : α} {arrivals : List (Nat × α)} {ending : Ending}
    {limit : Option Nat} (hends : (⟨(gap, x) :: arrivals, ending⟩ : TimedStream α).Ends)
    (hgap : ¬ Within limit gap) :
    UsesUp ⟨(gap, x) :: arrivals, ending⟩ (expire ⟨(gap, x) :: arrivals, ending⟩ limit) := by
  cases limit with
  | none => exact absurd (within_none gap) hgap
  | some b =>
      rw [within_some, not_le] at hgap
      have hrest := elapse_cons hgap.le x arrivals ending
      refine ⟨Cause.noConfusion, ?_, ?_⟩
      · rwa [expire, hrest]
      · simp only [expire, hrest, weight_cons, List.length_nil]
        omega

theorem UsesUp.awaitEnd {ending : Ending} (hends : (⟨[], ending⟩ : TimedStream α).Ends)
    (limit : Option Nat) :
    UsesUp (⟨[], ending⟩ : TimedStream α) (TimedStream.awaitEnd ⟨[], ending⟩ limit) := by
  cases ending with
  | stillOpen => exact absurd rfl hends
  | ended orderly after =>
      by_cases hwithin : Within limit after
      · simp only [TimedStream.awaitEnd, if_pos hwithin]
        exact ⟨by simp, by simp [Ends], by simp [weight]⟩
      · simp only [TimedStream.awaitEnd, if_neg hwithin]
        cases limit with
        | none => exact absurd (within_none after) hwithin
        | some b =>
            rw [within_some] at hwithin
            refine ⟨Cause.noConfusion, Ending.noConfusion, ?_⟩
            simp only [expire, elapse_nil, Ending.elapse, weight, List.length_nil, time_nil]
            omega

theorem usesUp_await (s : TimedStream α) (hends : s.Ends) (limit : Option Nat) :
    UsesUp s (s.await limit) := by
  obtain ⟨arrivals, ending⟩ := s
  cases arrivals with
  | nil => exact UsesUp.awaitEnd hends limit
  | cons a arrivals =>
      obtain ⟨gap, x⟩ := a
      by_cases hgap : Within limit gap
      · simp only [await, if_pos hgap, elapse_cons le_rfl]
        refine ⟨Cause.noConfusion, hends, ?_⟩
        simp only [weight_cons, List.length_nil]
        omega
      · simp only [await, if_neg hgap]
        exact UsesUp.expire_cons hends hgap

/-- By induction on the number of elements. -/
theorem usesUp_receive (s : TimedStream α) (hends : s.Ends) (limit : Option Nat) (n : Nat) :
    UsesUp s (receive limit n s) := by
  induction n generalizing limit s with
  | zero => exact ⟨by simp [receive], hends, by simp [receive]⟩
  | succ n ih =>
      obtain ⟨arrivals, ending⟩ := s
      cases arrivals with
      | nil => exact UsesUp.awaitEnd hends limit
      | cons a arrivals =>
          obtain ⟨gap, x⟩ := a
          rw [receive]
          split_ifs with hgap
          · have hrest := ih ⟨arrivals, ending⟩ hends (limit.map (· - gap))
            refine ⟨hrest.returns, hrest.ends, ?_⟩
            have hweight := hrest.weight_eq
            dsimp only
            rw [weight_cons, List.length_cons]
            omega
          · exact UsesUp.expire_cons hends hgap

end TimedStream

end DriveSim.Lib
