import DriveSim.Transport.Socket
import Mathlib.Tactic.Linarith

/-!
# What one read tells nanoMODBUS

The value of a read says whether all bytes came, whether some are missing, or whether
the connection is down; each case is decided by the stream behind the socket.  On a
connection that ends, every read returns, and uses up bytes or time; a send only takes
time, and returns when the peer reads.
-/

namespace DriveSim

open Lib

/-- The peer stays, and sends fewer than `count` bytes. -/
def FallsShort (s : TimedStream UInt8) (count : Nat) : Prop :=
  s.ending = .stillOpen ∧ s.arrivals.length < count

instance (s : TimedStream UInt8) (count : Nat) : Decidable (FallsShort s count) :=
  inferInstanceAs (Decidable (_ ∧ _))

/-- A read of `count` bytes gets nothing for good: the connection ends within the limit, or
there is no limit and too little ever comes. -/
def CutOff (s : TimedStream UInt8) (limit : Option Nat) (count : Nat) : Prop :=
  (s.arrivals = [] ∧ s.EndsWithin limit) ∨ (limit = none ∧ FallsShort s count)

instance (s : TimedStream UInt8) (limit : Option Nat) (count : Nat) :
    Decidable (CutOff s limit count) :=
  inferInstanceAs (Decidable (_ ∨ _))

namespace Conn

def readLimit (conn : Conn) (byteTimeoutMs : Int) : Option Nat :=
  limitOf (rcvTimeoFor conn.rcvTimeo byteTimeoutMs)

def advance (conn : Conn) (byteTimeoutMs : Int) (count : Nat) : Conn :=
  { conn with
    incoming := conn.incoming.drop count
    rcvTimeo := rcvTimeoFor conn.rcvTimeo byteTimeoutMs
    clock := conn.clock + conn.incoming.time count }

def weight (conn : Conn) : Nat := conn.incoming.weight

end Conn

section Reads

variable {conn : Conn} {count : Nat} {byteTimeoutMs : Int}

variable {result : ReadResult}

theorem result_of_read (h : modbusTransportRead conn count byteTimeoutMs = some result) :
    ((conn.withTimeout byteTimeoutMs).reception count).cause ≠ .blocked ∧
      result = ⟨readValue count ((conn.withTimeout byteTimeoutMs).reception count),
        ((conn.withTimeout byteTimeoutMs).reception count).got,
        (conn.withTimeout byteTimeoutMs).after
          ((conn.withTimeout byteTimeoutMs).reception count)⟩ := by
  rw [modbusTransportRead_eq] at h
  dsimp only at h
  rw [Option.ite_none_left_eq_some, Option.some.injEq] at h
  exact ⟨h.1, h.2.symm⟩

theorem received_of_pos (conn : Conn) (byteTimeoutMs : Int) (hcount : 0 < count) :
    conn.incoming.Received (conn.readLimit byteTimeoutMs) count
      ((conn.withTimeout byteTimeoutMs).reception count) := by
  rw [Conn.reception, if_neg hcount.ne']
  exact TimedStream.received _ _ _

theorem read_of_arrives (hcount : 0 < count)
    (h : conn.incoming.ArrivesWithin (conn.readLimit byteTimeoutMs) count) :
    modbusTransportRead conn count byteTimeoutMs =
      some ⟨count, conn.incoming.elements.take count, conn.advance byteTimeoutMs count⟩ := by
  have hreceived := received_of_pos conn byteTimeoutMs hcount
  rw [modbusTransportRead_eq]
  generalize (conn.withTimeout byteTimeoutMs).reception count = r at *
  cases hreceived with
  | complete _ =>
      have hlength : (conn.incoming.elements.take count).length = count := by
        simpa using h.1
      have hsome : conn.incoming.elements.take count ≠ [] := by
        rw [← List.length_pos_iff, hlength]
        exact hcount
      simp only [reduceCtorEq, if_false, readValue, hsome, false_and, hlength]
      rfl
  | timedOut k b hlimit hk harrived hlate hopen => exact absurd (h.mono hk) hlate
  | ended orderly after hending hshort hend => exact absurd h.1 hshort.not_ge
  | blocked hlimit hending hshort => exact absurd h.1 hshort.not_ge

theorem CutOff.not_arrives {s : TimedStream UInt8} {limit : Option Nat} (hcount : 0 < count)
    (h : CutOff s limit count) : ¬ s.ArrivesWithin limit count := by
  intro harrives
  have hlength := harrives.1
  obtain ⟨hnothing, _⟩ | ⟨_, _, hshort⟩ := h
  · rw [hnothing, List.length_nil] at hlength
    omega
  · omega

theorem read_of_cutOff (hcount : 0 < count)
    (h : CutOff conn.incoming (conn.readLimit byteTimeoutMs) count)
    (hread : modbusTransportRead conn count byteTimeoutMs = some result) :
    result.value = -1 ∧ result.bytes = [] := by
  obtain ⟨hreturns, rfl⟩ := result_of_read hread
  have hreceived := received_of_pos conn byteTimeoutMs hcount
  generalize (conn.withTimeout byteTimeoutMs).reception count = r at *
  cases hreceived with
  | complete harrived => exact absurd harrived (h.not_arrives hcount)
  | timedOut k b hlimit hk harrived hlate hopen =>
      obtain ⟨_, hend⟩ | ⟨hnone, _, _⟩ := h
      · exact absurd hend hopen
      · rw [hlimit] at hnone
        exact absurd hnone (Option.some_ne_none b)
  | ended orderly after hending hshort hend =>
      obtain ⟨hnothing, _⟩ | ⟨_, hopen, _⟩ := h
      · have helements : conn.incoming.elements = [] := by
          simp [TimedStream.elements, hnothing]
        simp [readValue, helements]
      · rw [hending] at hopen
        exact Ending.noConfusion hopen
  | blocked hlimit hending hshort => exact absurd rfl hreturns

theorem read_of_partial (hcount : 0 < count)
    (hlate : ¬ conn.incoming.ArrivesWithin (conn.readLimit byteTimeoutMs) count)
    (hcut : ¬ CutOff conn.incoming (conn.readLimit byteTimeoutMs) count) :
    ∃ result, modbusTransportRead conn count byteTimeoutMs = some result ∧
      result.value = result.bytes.length ∧ result.bytes.length < count := by
  have hreceived := received_of_pos conn byteTimeoutMs hcount
  rw [modbusTransportRead_eq]
  generalize (conn.withTimeout byteTimeoutMs).reception count = r at *
  cases hreceived with
  | complete harrived => exact absurd harrived hlate
  | timedOut k b hlimit hk harrived _ hopen =>
      refine ⟨_, rfl, by simp [readValue, hcount.ne'], ?_⟩
      exact lt_of_le_of_lt (List.length_take_le _ _) hk
  | ended orderly after hending hshort hend =>
      have hsome : conn.incoming.elements ≠ [] := by
        intro hnone
        have hnothing : conn.incoming.arrivals = [] := List.map_eq_nil_iff.mp hnone
        exact hcut (.inl ⟨hnothing, hend⟩)
      refine ⟨_, rfl, if_neg fun h => hsome h.1, ?_⟩
      rwa [TimedStream.length_elements]
  | blocked hlimit hending hshort => exact absurd (.inr ⟨hlimit, hending, hshort⟩) hcut

/-- A read without a limit waits for ever exactly when too little comes. -/
theorem read_eq_none_iff (conn : Conn) (hcount : 0 < count) :
    modbusTransportRead conn count 0 = none ↔ FallsShort conn.incoming count := by
  have hreceived := received_of_pos conn 0 hcount
  have hlimit : conn.readLimit 0 = none := rfl
  rw [modbusTransportRead_eq]
  dsimp only
  simp only [ite_eq_left_iff, reduceCtorEq, imp_false, not_not]
  generalize (conn.withTimeout 0).reception count = r at *
  cases hreceived with
  | complete harrived => exact iff_of_false (by simp) fun hshort => harrived.1.not_gt hshort.2
  | timedOut k b hsome _ _ _ _ =>
      exact absurd (hlimit.symm.trans hsome) (Option.some_ne_none b).symm
  | ended orderly after hending _ _ =>
      refine iff_of_false (by simp) fun hshort => ?_
      exact Ending.noConfusion (hending.symm.trans hshort.1)
  | blocked _ hending hshort => exact iff_of_true rfl ⟨hending, hshort⟩

theorem pos_of_limit {b : Nat} (h : conn.readLimit byteTimeoutMs = some b) : 0 < b := by
  unfold Conn.readLimit Conn.limitOf at h
  split_ifs at h with hzero
  rw [Option.some.injEq] at h
  omega

theorem read_of_silent
    (h : ¬ conn.incoming.ArrivesWithin (conn.readLimit byteTimeoutMs) 1)
    (hread : modbusTransportRead conn 1 byteTimeoutMs = some result) :
    result.bytes = [] ∧
      (result.value = -1 ∨ result.value = 0 ∧ conn.clock < result.conn.clock) := by
  obtain ⟨hreturns, rfl⟩ := result_of_read hread
  have hreceived := received_of_pos conn byteTimeoutMs Nat.one_pos
  generalize (conn.withTimeout byteTimeoutMs).reception 1 = r at *
  cases hreceived with
  | complete harrived => exact absurd harrived h
  | timedOut k b hlimit hk harrived hlate hopen =>
      obtain rfl : k = 0 := by omega
      refine ⟨rfl, .inr ⟨by simp [readValue], ?_⟩⟩
      exact Nat.lt_add_of_pos_right (pos_of_limit hlimit)
  | ended orderly after hending hshort hend =>
      have hnothing : conn.incoming.elements = [] := by
        rw [← List.length_eq_zero_iff, TimedStream.length_elements]
        omega
      simp [readValue, hnothing]
  | blocked hlimit hending hshort => exact absurd rfl hreturns

/-- A read of no bytes waits for the stream, and is an error. -/
theorem read_nothing (hread : modbusTransportRead conn 0 byteTimeoutMs = some result) :
    result.bytes = [] ∧ result.value = -1 := by
  obtain ⟨hreturns, rfl⟩ := result_of_read hread
  have hgot : ((conn.withTimeout byteTimeoutMs).reception 0).got = [] :=
    (TimedStream.awaited conn.incoming (conn.readLimit byteTimeoutMs)).got_eq
  exact ⟨hgot, if_pos ⟨hgot, .inl rfl⟩⟩

theorem read_of_ends (count : Nat) (byteTimeoutMs : Int) (hends : conn.incoming.Ends) :
    ∃ result, modbusTransportRead conn count byteTimeoutMs = some result ∧
      result.conn.incoming.Ends ∧
      result.conn.clock + result.conn.weight + result.bytes.length = conn.clock + conn.weight := by
  have hused : (conn.incoming).UsesUp ((conn.withTimeout byteTimeoutMs).reception count) := by
    unfold Conn.reception
    split_ifs
    · exact TimedStream.usesUp_await _ hends _
    · exact TimedStream.usesUp_receive _ hends _ _
  rw [modbusTransportRead_eq]
  dsimp only
  rw [if_neg hused.returns]
  refine ⟨_, rfl, hused.ends, ?_⟩
  have hweight := hused.weight_eq
  simp only [Conn.weight, Conn.after, Conn.withTimeout] at *
  omega

/-- The peer hangs up some day, and until then it reads what it is sent. -/
structure Conn.LetsGo (conn : Conn) : Prop where
  ends : conn.incoming.Ends
  reads : ∀ i, conn.sends i ≠ none

def Conn.TakesAnswers (conn : Conn) : Prop :=
  ∀ i, ∃ elapsed, conn.sends i = some ⟨.success, elapsed⟩

theorem Conn.TakesAnswers.letsGo {conn : Conn} (h : conn.TakesAnswers)
    (hends : conn.incoming.Ends) : conn.LetsGo where
  ends := hends
  reads := fun i hnone => by
    obtain ⟨elapsed, hsome⟩ := h i
    exact absurd (hsome.symm.trans hnone) (Option.some_ne_none _)

theorem Conn.TakesAnswers.sends {conn : Conn} (h : conn.TakesAnswers) : conn.Sends := by
  obtain ⟨elapsed, hsome⟩ := h 0
  exact (Conn.sends_iff hsome).mpr rfl

/-- `conn'` is a later state of the connection `conn`: if the peer lets go of it, less is to
come. -/
def Conn.Later (conn conn' : Conn) : Prop :=
  conn.LetsGo → conn'.LetsGo ∧ conn'.weight ≤ conn.weight

def Conn.Progress (conn conn' : Conn) : Prop :=
  conn.LetsGo → conn'.LetsGo ∧ conn'.weight < conn.weight

theorem Conn.Later.refl (conn : Conn) : conn.Later conn := fun hgo => ⟨hgo, le_rfl⟩

theorem Conn.Progress.later {conn conn₁ conn₂ : Conn} (h : conn.Progress conn₁)
    (hlater : conn₁.Later conn₂) : conn.Progress conn₂ := by
  intro hgo
  obtain ⟨hgo₁, hweight₁⟩ := h hgo
  obtain ⟨hgo₂, hweight₂⟩ := hlater hgo₁
  exact ⟨hgo₂, by omega⟩

theorem Conn.Progress.le {conn conn' : Conn} (h : conn.Progress conn') : conn.Later conn' :=
  fun hgo => ⟨(h hgo).1, (h hgo).2.le⟩

theorem Conn.Later.trans {conn conn₁ conn₂ : Conn} (h : conn.Later conn₁)
    (h₂ : conn₁.Later conn₂) : conn.Later conn₂ := by
  intro hgo
  obtain ⟨hgo₁, hweight₁⟩ := h hgo
  obtain ⟨hgo₂, hweight₂⟩ := h₂ hgo₁
  exact ⟨hgo₂, by omega⟩

theorem later_sent (conn : Conn) (o : SendOutcome) (bytes : List UInt8) :
    conn.Later (conn.sent o bytes) := fun hgo =>
  ⟨⟨TimedStream.ends_elapse hgo.ends _, fun i => hgo.reads (i + 1)⟩,
    TimedStream.weight_elapse_le _ _⟩

theorem sent_of_read (h : modbusTransportRead conn count byteTimeoutMs = some result) :
    result.conn.written = conn.written ∧ result.conn.sends = conn.sends := by
  obtain ⟨_, rfl⟩ := result_of_read h
  exact ⟨rfl, rfl⟩

theorem clock_le_of_read (h : modbusTransportRead conn count byteTimeoutMs = some result) :
    conn.clock ≤ result.conn.clock := by
  obtain ⟨_, rfl⟩ := result_of_read h
  exact Nat.le_add_right _ _

theorem later_of_read (h : modbusTransportRead conn count byteTimeoutMs = some result) :
    conn.Later result.conn := by
  intro hgo
  obtain ⟨result', hread, hends', hweight⟩ := read_of_ends count byteTimeoutMs hgo.ends
  obtain rfl := Option.some.inj (h.symm.trans hread)
  have hclock := clock_le_of_read h
  exact ⟨⟨hends', (sent_of_read h).2 ▸ hgo.reads⟩, by omega⟩

theorem Conn.Later.advance {conn conn' : Conn} (hlater : conn.Later conn') (hcount : 0 < count)
    (h : conn'.incoming.ArrivesWithin (conn'.readLimit byteTimeoutMs) count) :
    conn.Later (conn'.advance byteTimeoutMs count) :=
  hlater.trans (later_of_read (read_of_arrives hcount h))

theorem progress_of_read (h : modbusTransportRead conn count byteTimeoutMs = some result)
    (hused : result.bytes ≠ [] ∨ conn.clock < result.conn.clock) : conn.Progress result.conn := by
  intro hgo
  obtain ⟨result', hread, hends', hweight⟩ := read_of_ends count byteTimeoutMs hgo.ends
  obtain rfl := Option.some.inj (h.symm.trans hread)
  have hclock := clock_le_of_read h
  refine ⟨⟨hends', (sent_of_read h).2 ▸ hgo.reads⟩, ?_⟩
  obtain hbytes | hlater := hused
  · have hlength := List.length_pos_iff.mpr hbytes
    omega
  · omega

theorem progress_advance (hcount : 0 < count)
    (h : conn.incoming.ArrivesWithin (conn.readLimit byteTimeoutMs) count) :
    conn.Progress (conn.advance byteTimeoutMs count) := by
  apply progress_of_read (read_of_arrives hcount h)
  left
  apply List.ne_nil_of_length_pos
  have hlength : (conn.incoming.elements.take count).length = count := by simpa using h.1
  rw [hlength]
  exact hcount

end Reads

end DriveSim
