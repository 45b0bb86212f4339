import DriveSim.Nmbs.Messages

/-!
# What a message asks of the application

A message that passes the checks of the library asks for one transition of the user
data, made of one or two callbacks.  Every handler runs exactly that transition and
answers with an exception if and only if it fails, or if there was nothing to ask.
-/

namespace DriveSim

open Lib Program Nmbs

variable {σ : Type*}

abbrev Transition (σ : Type*) := σ → NmbsError × σ

def Transition.andThen (first second : Transition σ) : Transition σ := fun arg =>
  if (first arg).1 = .none then second (first arg).2 else first arg

theorem Transition.andThen_of_eq {first : Transition σ} (second : Transition σ) {arg : σ}
    (h : (first arg).1 = .none) : first.andThen second arg = second (first arg).2 := if_pos h

theorem Transition.andThen_of_ne {first : Transition σ} (second : Transition σ) {arg : σ}
    (h : (first arg).1 ≠ .none) : first.andThen second arg = first arg := if_neg h

namespace Nmbs

variable (st : Nmbs σ)

def readTransition {α : Type} (callback : UInt16 → UInt16 → Cells α → UInt8 → σ →
    NmbsError × Cells α × σ) (zero : α) (address quantity : UInt16) : Transition σ := fun arg =>
  let (err, _, next) := callback address quantity (fun _ => zero) st.msg.unitId arg
  (err, next)

def InRange (address quantity : UInt16) : Prop := address.toNat + quantity.toNat ≤ 0xFFFF + 1

instance (address quantity : UInt16) : Decidable (InRange address quantity) :=
  inferInstanceAs (Decidable (_ ≤ _))

def readDiscreteRequest (callback : Option (ReadBits σ)) : Option (Transition σ) :=
  if 1 ≤ st.wordAt 10 ∧ st.wordAt 10 ≤ 2000 ∧ InRange (st.wordAt 8) (st.wordAt 10) then
    callback.map fun callback => st.readTransition callback 0 (st.wordAt 8) (st.wordAt 10)
  else none

def readRegistersRequest (callback : Option (ReadRegisters σ)) : Option (Transition σ) :=
  if 1 ≤ st.wordAt 10 ∧ st.wordAt 10 ≤ 125 ∧ InRange (st.wordAt 8) (st.wordAt 10) then
    callback.map fun callback => st.readTransition callback 0 (st.wordAt 8) (st.wordAt 10)
  else none

def writeSingleCoilRequest : Option (Transition σ) :=
  if st.wordAt 10 = 0 ∨ st.wordAt 10 = 0xFF00 then
    st.callbacks.writeSingleCoil.map fun callback =>
      callback (st.wordAt 8) (st.wordAt 10 != 0) st.msg.unitId
  else none

def writeSingleRegisterRequest : Option (Transition σ) :=
  st.callbacks.writeSingleRegister.map fun callback =>
    callback (st.wordAt 8) (st.wordAt 10) st.msg.unitId

def bytesAt (start count : Nat) : Cells UInt8 := fun i =>
  if i < count then st.msg.buf (start + i) else 0

def wordsAt (start count : Nat) : Cells UInt16 := fun i =>
  if i < count then st.wordAt (start + 2 * i) else 0

def writeMultipleCoilsRequest : Option (Transition σ) :=
  if 1 ≤ st.wordAt 10 ∧ st.wordAt 10 ≤ 0x07B0 ∧ InRange (st.wordAt 8) (st.wordAt 10) ∧
      ((st.wordAt 10).toNat + 7) / 8 = (st.msg.buf 12).toNat then
    st.callbacks.writeMultipleCoils.map fun callback =>
      callback (st.wordAt 8) (st.wordAt 10) (st.bytesAt 13 (st.msg.buf 12).toNat) st.msg.unitId
  else none

def writeMultipleRegistersRequest : Option (Transition σ) :=
  if 1 ≤ st.wordAt 10 ∧ st.wordAt 10 ≤ 0x007B ∧ InRange (st.wordAt 8) (st.wordAt 10) ∧
      (st.msg.buf 12).toNat = (st.wordAt 10).toNat * 2 then
    st.callbacks.writeMultipleRegisters.map fun callback =>
      callback (st.wordAt 8) (st.wordAt 10) (st.wordsAt 13 (st.wordAt 10).toNat) st.msg.unitId
  else none

/-- The scan of function code 21 from cell `n` on, with `size` bytes left, never reads
outside the buffer.  The size wraps around below 0, and then the scan runs on. -/
def subrequestsFit : Nat → Nat → UInt16 → Bool
  | 0, _, _ => false
  | rounds + 1, n, size =>
      let subreq := st.subrequestAt n
      let left := size - (7 + subreq.recordLength * 2)
      n + 7 ≤ msgBufSize && (!subreq.valid 122 || left < 7 ||
        subrequestsFit rounds ((n + 7 + subreq.recordLength.toNat * 2 % 65536) % 65536) left)

/-- The checks on function code 23: read address and quantity are in cells 8 to 11, write
address and quantity in cells 12 to 15, the byte count in cell 16. -/
def ReadWriteValid : Prop :=
  (1 ≤ st.wordAt 10 ∧ st.wordAt 10 ≤ 0x007D) ∧ (1 ≤ st.wordAt 14 ∧ st.wordAt 14 ≤ 0x007B) ∧
    (st.msg.buf 16).toNat = (st.wordAt 14).toNat * 2 ∧
    InRange (st.wordAt 8) (st.wordAt 10) ∧ InRange (st.wordAt 12) (st.wordAt 14)

instance : Decidable st.ReadWriteValid := inferInstanceAs (Decidable (_ ∧ _))

def readWriteRequest : Option (Transition σ) :=
  match st.callbacks.writeMultipleRegisters, st.callbacks.readHoldingRegisters with
  | some write, some read =>
      if st.ReadWriteValid then
        some (Transition.andThen
          (write (st.wordAt 12) (st.wordAt 14) (st.wordsAt 17 (st.wordAt 14).toNat)
            st.msg.unitId)
          (st.readTransition read 0 (st.wordAt 8) (st.wordAt 10)))
      else none
  | _, _ => none

end Nmbs

/-- How a handler may leave: a malformed message is not answered, and any other one is
answered by what became of its request. -/
inductive Handled (st : Nmbs σ) (invalid : Prop) (request : Option (Transition σ)) :
    NmbsError → Nmbs σ → Prop
  | invalid (h : invalid) {st' : Nmbs σ} (hframed : Framed st st') :
      Handled st invalid request .invalidRequest st'
  | notAsked (hvalid : ¬ invalid) (h : request = none) {err : NmbsError} {st' : Nmbs σ}
      (hreplied : Replied st (st.msg.fc + 0x80) err st') : Handled st invalid request err st'
  | refused (hvalid : ¬ invalid) {run : Transition σ} (h : request = some run)
      (hrun : (run st.arg).1 ≠ .none) {err : NmbsError} {st' : Nmbs σ}
      (hreplied : Replied (st.setArg (run st.arg).2) (st.msg.fc + 0x80) err st') :
      Handled st invalid request err st'
  | served (hvalid : ¬ invalid) {run : Transition σ} (h : request = some run)
      (hrun : (run st.arg).1 = .none) {err : NmbsError} {st' : Nmbs σ}
      (hreplied : Replied (st.setArg (run st.arg).2) st.msg.fc err st') :
      Handled st invalid request err st'

section Handlers

variable {H : Halt → Prop} {st : Nmbs σ} {n : Nat} {invalid : Prop}
  {request : Option (Transition σ)}

theorem framed_seek (st : Nmbs σ) (n : Nat) : Framed st (st.seek n) := ⟨rfl, rfl, rfl, rfl, rfl⟩

theorem registers_fit {quantity : UInt16} (h : quantity ≤ 125) :
    9 + quantity.toNat * 2 ≤ msgBufSize := by
  have hcount : quantity.toNat ≤ 125 := h
  unfold msgBufSize
  omega

theorem bits_fit {quantity : UInt16} (h : quantity ≤ 2000) :
    9 + (quantity.toNat + 7) / 8 ≤ msgBufSize := by
  have hcount : quantity.toNat ≤ 2000 := h
  unfold msgBufSize
  omega

theorem wp_putRegisters_of_fit (regs : Cells UInt16) {count : Nat}
    (hfit : 9 + count * 2 ≤ msgBufSize) {start st' : Nmbs σ} {fc : UInt8}
    (h : Building start fc 9 st') :
    Wp H (putRegisters regs 0 count) (fun _ st'' => Building start fc (9 + count * 2) st'')
      st' := by
  rw [Nat.mul_comm] at hfit ⊢
  exact wp_putRegisters regs 0 _ h hfit

theorem wp_of_ready {α : Type} (hst : st.Ready) {x : NmbsM σ α} {Q : α → Nmbs σ → Prop}
    (h : Wp H x Q (st.seek 8)) : Wp H x Q st := by
  rwa [hst.seek_eq] at h

theorem wp_get_address (f : UInt16 → UInt16 → NmbsM σ NmbsError)
    (Q : NmbsError → Nmbs σ → Prop) :
    Wp H (do
      let address ← get2
      let quantity ← get2
      f address quantity) Q (st.seek 8) ↔
      Wp H (f (st.wordAt 8) (st.wordAt 10)) Q (st.seek 12) := by
  rw [wp_bind, wp_get2 (by decide), wp_bind, wp_get2 (by decide)]

theorem wp_get_address_count (f : UInt16 → UInt16 → UInt8 → NmbsM σ NmbsError)
    (Q : NmbsError → Nmbs σ → Prop) :
    Wp H (do
      let address ← get2
      let quantity ← get2
      let count ← get1
      f address quantity count) Q (st.seek 8) ↔
      Wp H (f (st.wordAt 8) (st.wordAt 10) (st.msg.buf 12)) Q (st.seek 13) := by
  rw [wp_get_address, wp_bind, wp_get1 (by decide)]

theorem wp_runReadCallback {α : Type} (callback : UInt16 → UInt16 → Cells α → UInt8 → σ →
    NmbsError × Cells α × σ) (zero : α) (address quantity : UInt16)
    (f : NmbsError × Cells α → NmbsM σ NmbsError) (Q : NmbsError → Nmbs σ → Prop) :
    Wp H (runReadCallback callback address quantity (fun _ => zero) >>= f) Q (st.seek n) ↔
      Wp H (f ((st.readTransition callback zero address quantity st.arg).1,
          (callback address quantity (fun _ => zero) st.msg.unitId st.arg).2.1)) Q
        ((st.setArg (st.readTransition callback zero address quantity st.arg).2).seek n) :=
  Iff.rfl

theorem quantity_iff {quantity lo hi : UInt16} :
    ¬ (quantity < lo ∨ hi < quantity) ↔ lo ≤ quantity ∧ quantity ≤ hi := by
  rw [not_or, UInt16.not_lt, UInt16.not_lt]

theorem inRange_iff {address quantity : UInt16} :
    ¬ 0xFFFF + 1 < address.toNat + quantity.toNat ↔ InRange address quantity :=
  Nat.not_lt

theorem wordsAt_eq (st : Nmbs σ) (start count : Nat) :
    (fun j => if 0 ≤ j ∧ j < 0 + count then st.wordAt (start + 2 * (j - 0)) else 0) =
      st.wordsAt start count := by
  ext j : 1
  simp [wordsAt]

theorem bytesAt_eq (st : Nmbs σ) (start count : Nat) :
    (fun j => if 0 ≤ j ∧ j < 0 + count then st.msg.buf (start + (j - 0)) else 0) =
      st.bytesAt start count := by
  ext j : 1
  simp [bytesAt]

theorem readWriteRequest_none (h : ¬ st.ReadWriteValid) : st.readWriteRequest = none := by
  unfold readWriteRequest
  split
  · exact if_neg h
  · rfl

theorem readWriteRequest_some {write : WriteRegisters σ} {read : ReadRegisters σ}
    (hwrite : st.callbacks.writeMultipleRegisters = some write)
    (hread : st.callbacks.readHoldingRegisters = some read) (h : st.ReadWriteValid) :
    st.readWriteRequest = some (Transition.andThen
      (write (st.wordAt 12) (st.wordAt 14) (st.wordsAt 17 (st.wordAt 14).toNat) st.msg.unitId)
      (st.readTransition read 0 (st.wordAt 8) (st.wordAt 10))) := by
  rw [readWriteRequest, hwrite, hread]
  exact if_pos h

theorem wp_get_two_addresses (f : UInt16 → UInt16 → UInt16 → UInt16 → UInt8 → NmbsM σ NmbsError)
    (Q : NmbsError → Nmbs σ → Prop) :
    Wp H (do
      let readAddress ← get2
      let readQuantity ← get2
      let writeAddress ← get2
      let writeQuantity ← get2
      let count ← get1
      f readAddress readQuantity writeAddress writeQuantity count) Q (st.seek 8) ↔
      Wp H (f (st.wordAt 8) (st.wordAt 10) (st.wordAt 12) (st.wordAt 14) (st.msg.buf 16)) Q
        (st.seek 17) := by
  rw [wp_get_address, wp_bind, wp_get2 (by decide), wp_bind, wp_get2 (by decide), wp_bind,
    wp_get1 (by decide)]

/-- The scan of a write file record request stays inside the buffer. -/
theorem wp_checkSubrequests (rounds : Nat) (size : UInt16)
    (hfit : st.subrequestsFit rounds n size = false → H .undefined)
    {Q : Option UInt16 → Nmbs σ → Prop} (hinvalid : ∀ n', Q none (st.seek n'))
    (hvalid : (st.subrequestAt n).valid 122 = true → ∀ left n', Q (some left) (st.seek n')) :
    Wp H (checkSubrequests rounds size) Q (st.seek n) := by
  induction rounds generalizing n size with
  | zero => exact hfit rfl
  | succ rounds ih =>
      by_cases hn : n + 7 ≤ msgBufSize
      · rw [checkSubrequests, wp_bind, wp_getSubrequest (by omega), wp_bind, wp_discardN]
        by_cases hsubreq : (st.subrequestAt n).valid 122
        · rw [hsubreq, if_neg (by decide)]
          dsimp only
          split_ifs with hleft
          · apply ih _ _ fun _ => hvalid hsubreq
            intro hrest
            have hleft' : ¬ size - (7 + (st.subrequestAt n).recordLength * 2) < 7 :=
              UInt16.not_lt.mpr hleft
            apply hfit
            simp only [Nmbs.subrequestsFit, hsubreq, hleft', hrest, decide_false, Bool.not_true,
              Bool.or_false, Bool.and_false]
          · exact hvalid hsubreq _ _
        · rw [if_pos (by simpa using hsubreq)]
          exact hinvalid _
      · have hundefined : H .undefined := hfit (by simp [Nmbs.subrequestsFit, hn])
        rw [checkSubrequests, wp_bind]
        exact wp_getSubrequest_of_undefined hundefined (by omega) _

section Sending

variable (hblocks : st.conn.SendBlocks → H .running)
include hblocks

theorem wp_notAsked (hvalid : ¬ invalid) (h : request = none) (exception : NmbsError) :
    Wp H (sendExceptionMsg exception) (Handled st invalid request) (st.seek n) :=
  wp_mono (wp_sendExceptionMsg (framed_seek st n) exception hblocks)
    fun _ _ hreplied => .notAsked hvalid h hreplied

theorem wp_refused (hvalid : ¬ invalid) {run : Transition σ} (h : request = some run)
    {verdict : NmbsError × σ} (hrun : run st.arg = verdict) (herr : verdict.1 ≠ .none)
    (exception : NmbsError) :
    Wp H (sendExceptionMsg exception) (Handled st invalid request)
      ((st.setArg verdict.2).seek n) := by
  subst hrun
  exact wp_mono (wp_sendExceptionMsg (framed_seek _ n) exception hblocks)
    fun _ _ hreplied => .refused hvalid h herr hreplied

theorem wp_answerWrite (hvalid : ¬ invalid) {run : Transition σ} (h : request = some run)
    (address word : UInt16) :
    Wp H (answerWrite (run st.arg).1 address word) (Handled st invalid request)
      ((st.setArg (run st.arg).2).seek n) := by
  unfold answerWrite
  split_ifs with hrun
  · exact wp_refused hblocks hvalid h rfl hrun _
  · rw [wp_bind]
    apply wp_mono (wp_putMsgHeader (framed_seek _ n) 4)
    intro _ st₁ h₁
    rw [wp_bind]
    apply wp_mono (wp_put2 h₁ (by decide) _)
    intro _ st₂ h₂
    rw [wp_bind]
    apply wp_mono (wp_put2 h₂ (by decide) _)
    intro _ st₃ h₃
    apply wp_mono (wp_sendMsg h₃ (by decide) hblocks)
    intro _ st₄ h₄
    exact .served hvalid h (not_not.mp hrun) h₄

theorem wp_answerData (hvalid : ¬ invalid) {run : Transition σ} (h : request = some run)
    {verdict : NmbsError × σ} (hrun : run st.arg = verdict) (herr : verdict.1 = .none)
    {bytes : Nat} (hfit : 9 + bytes ≤ msgBufSize) {put : NmbsM σ Unit}
    (hput : ∀ {start st' : Nmbs σ} {fc : UInt8}, Building start fc 9 st' →
      Wp H put (fun _ st'' => Building start fc (9 + bytes) st'') st') :
    Wp H (do
      putMsgHeader (UInt16.ofNat (1 + bytes))
      put1 (UInt8.ofNat bytes)
      put
      sendMsg) (Handled st invalid request) ((st.setArg verdict.2).seek n) := by
  subst hrun
  rw [wp_bind]
  apply wp_mono (wp_putMsgHeader (framed_seek _ n) _)
  intro _ st₁ h₁
  rw [wp_bind]
  apply wp_mono (wp_put1 h₁ (by decide) _)
  intro _ st₂ h₂
  rw [wp_bind]
  apply wp_mono (hput h₂)
  intro _ st₃ h₃
  apply wp_mono (wp_sendMsg h₃ hfit hblocks)
  intro _ st₄ h₄
  exact .served hvalid h herr h₄

theorem wp_checkRange {limit : UInt16} (hvalid : ¬ invalid)
    (hnone : ¬ (1 ≤ st.wordAt 10 ∧ st.wordAt 10 ≤ limit ∧
      InRange (st.wordAt 8) (st.wordAt 10)) → request = none) {rest : NmbsM σ NmbsError}
    (hrest : 1 ≤ st.wordAt 10 → st.wordAt 10 ≤ limit → InRange (st.wordAt 8) (st.wordAt 10) →
      Wp H rest (Handled st invalid request) (st.seek n)) :
    Wp H (do
      if st.wordAt 10 < 1 ∨ limit < st.wordAt 10 then
        return ← sendExceptionMsg .illegalDataValue
      if 0xFFFF + 1 < (st.wordAt 8).toNat + (st.wordAt 10).toNat then
        return ← sendExceptionMsg .illegalDataAddress
      rest) (Handled st invalid request) (st.seek n) := by
  split_ifs with hquantity hrange
  · exact wp_notAsked hblocks hvalid (hnone fun h => quantity_iff.mpr ⟨h.1, h.2.1⟩ hquantity) _
  · exact wp_notAsked hblocks hvalid (hnone fun h => inRange_iff.mpr h.2.2 hrange) _
  · rw [quantity_iff] at hquantity
    rw [inRange_iff] at hrange
    exact hrest hquantity.1 hquantity.2 hrange

theorem wp_handleReadRegisters (hst : st.Ready) (callback : Option (ReadRegisters σ)) :
    Wp H (handleReadRegisters callback)
      (Handled st False (st.readRegistersRequest callback)) st := by
  apply wp_of_ready hst
  rw [handleReadRegisters, wp_recv_pass hst.complete, wp_get_address]
  have hnone : ¬ (1 ≤ st.wordAt 10 ∧ st.wordAt 10 ≤ 125 ∧ InRange (st.wordAt 8) (st.wordAt 10)) →
      st.readRegistersRequest callback = none := fun h => if_neg h
  apply wp_checkRange hblocks not_false hnone
  intro hpos hlimit hrange
  have hrequest : st.readRegistersRequest callback = callback.map fun callback =>
      st.readTransition callback 0 (st.wordAt 8) (st.wordAt 10) := if_pos ⟨hpos, hlimit, hrange⟩
  cases callback with
  | none => exact wp_notAsked hblocks not_false hrequest _
  | some callback =>
      dsimp only
      rw [wp_runReadCallback]
      split_ifs with hrun
      · exact wp_refused hblocks not_false hrequest rfl hrun _
      · have hfit := registers_fit hlimit
        exact wp_answerData hblocks not_false hrequest rfl (not_not.mp hrun) hfit
          (wp_putRegisters_of_fit _ hfit)

theorem wp_handleReadDiscrete (hst : st.Ready) (callback : Option (ReadBits σ)) :
    Wp H (handleReadDiscrete callback)
      (Handled st False (st.readDiscreteRequest callback)) st := by
  apply wp_of_ready hst
  rw [handleReadDiscrete, wp_recv_pass hst.complete, wp_get_address]
  have hnone : ¬ (1 ≤ st.wordAt 10 ∧ st.wordAt 10 ≤ 2000 ∧ InRange (st.wordAt 8) (st.wordAt 10)) →
      st.readDiscreteRequest callback = none := fun h => if_neg h
  apply wp_checkRange hblocks not_false hnone
  intro hpos hlimit hrange
  have hrequest : st.readDiscreteRequest callback = callback.map fun callback =>
      st.readTransition callback 0 (st.wordAt 8) (st.wordAt 10) := if_pos ⟨hpos, hlimit, hrange⟩
  cases callback with
  | none => exact wp_notAsked hblocks not_false hrequest _
  | some callback =>
      dsimp only
      rw [wp_runReadCallback]
      split_ifs with hrun
      · exact wp_refused hblocks not_false hrequest rfl hrun _
      · have hfit := bits_fit hlimit
        exact wp_answerData hblocks not_false hrequest rfl (not_not.mp hrun) hfit
          fun h => wp_putBytes _ 0 _ h hfit

theorem wp_handleWriteSingleCoil (hst : st.Ready) :
    Wp H handleWriteSingleCoil (Handled st False st.writeSingleCoilRequest) st := by
  apply wp_of_ready hst
  rw [handleWriteSingleCoil, wp_withState, wp_recv_pass hst.complete, wp_get_address,
    seek_callbacks]
  have hrequest : st.writeSingleCoilRequest = if st.wordAt 10 = 0 ∨ st.wordAt 10 = 0xFF00 then
      st.callbacks.writeSingleCoil.map fun callback =>
        callback (st.wordAt 8) (st.wordAt 10 != 0) st.msg.unitId
    else none := rfl
  cases hcallback : st.callbacks.writeSingleCoil with
  | none =>
      rw [hcallback] at hrequest
      exact wp_notAsked hblocks not_false (hrequest.trans (ite_self _)) _
  | some callback =>
      rw [hcallback] at hrequest
      split_ifs with hvalue
      · exact wp_notAsked hblocks not_false (hrequest.trans (if_neg (not_or.mpr hvalue))) _
      · rw [wp_bind, wp_runCallback]
        have hvalue' : st.wordAt 10 = 0 ∨ st.wordAt 10 = 0xFF00 := by tauto
        exact wp_answerWrite hblocks not_false (hrequest.trans (if_pos hvalue')) _ _

theorem wp_handleWriteSingleRegister (hst : st.Ready) :
    Wp H handleWriteSingleRegister (Handled st False st.writeSingleRegisterRequest) st := by
  apply wp_of_ready hst
  rw [handleWriteSingleRegister, wp_withState, wp_recv_pass hst.complete, wp_get_address,
    seek_callbacks]
  have hrequest : st.writeSingleRegisterRequest =
      st.callbacks.writeSingleRegister.map fun callback =>
        callback (st.wordAt 8) (st.wordAt 10) st.msg.unitId := rfl
  cases hcallback : st.callbacks.writeSingleRegister with
  | none =>
      rw [hcallback] at hrequest
      exact wp_notAsked hblocks not_false hrequest _
  | some callback =>
      rw [hcallback] at hrequest
      rw [wp_bind, wp_runCallback]
      exact wp_answerWrite hblocks not_false hrequest _ _

theorem wp_handleWriteMultipleCoils (hst : st.Ready) :
    Wp H handleWriteMultipleCoils
      (Handled st (246 < st.msg.buf 12) st.writeMultipleCoilsRequest) st := by
  apply wp_of_ready hst
  rw [handleWriteMultipleCoils, wp_withState, wp_recv_pass hst.complete, wp_get_address_count,
    seek_callbacks]
  by_cases hbytes : 246 < st.msg.buf 12
  · rw [if_pos hbytes]
    exact .invalid hbytes (framed_seek st 13)
  · have hcount : (st.msg.buf 12).toNat ≤ 246 := UInt8.not_lt.mp hbytes
    rw [if_neg hbytes, wp_recv_pass hst.complete, wp_bind,
      wp_getBytes _ _ _ (by unfold msgBufSize; omega), bytesAt_eq]
    have hnone : ¬ (1 ≤ st.wordAt 10 ∧ st.wordAt 10 ≤ 0x07B0 ∧
        InRange (st.wordAt 8) (st.wordAt 10)) → st.writeMultipleCoilsRequest = none :=
      fun h => if_neg fun h' => h ⟨h'.1, h'.2.1, h'.2.2.1⟩
    apply wp_checkRange hblocks hbytes hnone
    intro hpos hlimit hrange
    split_ifs with hzero hlength
    · have hwrong : ¬ ((st.wordAt 10).toNat + 7) / 8 = (st.msg.buf 12).toNat := by
        have hpos' : 1 ≤ (st.wordAt 10).toNat := hpos
        rw [hzero]
        intro h
        have hcount0 : ((st.wordAt 10).toNat + 7) / 8 = 0 := h
        omega
      exact wp_notAsked hblocks hbytes (if_neg fun h => hwrong h.2.2.2) _
    · exact wp_notAsked hblocks hbytes (if_neg fun h => hlength h.2.2.2) _
    · have hrequest : st.writeMultipleCoilsRequest =
          st.callbacks.writeMultipleCoils.map fun callback =>
            callback (st.wordAt 8) (st.wordAt 10) (st.bytesAt 13 (st.msg.buf 12).toNat)
              st.msg.unitId :=
        if_pos ⟨hpos, hlimit, hrange, not_not.mp hlength⟩
      cases hcallback : st.callbacks.writeMultipleCoils with
      | none => exact wp_notAsked hblocks hbytes (by rw [hrequest, hcallback]; rfl) _
      | some callback =>
          rw [hcallback] at hrequest
          rw [wp_bind, wp_runCallback]
          exact wp_answerWrite hblocks hbytes hrequest _ _

theorem wp_handleWriteMultipleRegisters (hst : st.Ready) :
    Wp H handleWriteMultipleRegisters
      (Handled st (246 < st.msg.buf 12) st.writeMultipleRegistersRequest) st := by
  apply wp_of_ready hst
  rw [handleWriteMultipleRegisters, wp_withState, wp_recv_pass hst.complete,
    wp_get_address_count, wp_recv_pass hst.complete, seek_callbacks]
  by_cases hbytes : 246 < st.msg.buf 12
  · rw [if_pos hbytes]
    exact .invalid hbytes (framed_seek st 13)
  · have hcount : (st.msg.buf 12).toNat ≤ 246 := UInt8.not_lt.mp hbytes
    rw [if_neg hbytes, wp_bind, wp_getRegisters _ _ _ (by unfold msgBufSize; omega), wordsAt_eq]
    have hnone : ¬ (1 ≤ st.wordAt 10 ∧ st.wordAt 10 ≤ 0x007B ∧
        InRange (st.wordAt 8) (st.wordAt 10)) → st.writeMultipleRegistersRequest = none :=
      fun h => if_neg fun h' => h ⟨h'.1, h'.2.1, h'.2.2.1⟩
    apply wp_checkRange hblocks hbytes hnone
    intro hpos hlimit hrange
    split_ifs with hzero hlength
    · have hwrong : ¬ (st.msg.buf 12).toNat = (st.wordAt 10).toNat * 2 := by
        have hpos' : 1 ≤ (st.wordAt 10).toNat := hpos
        rw [hzero]
        intro h
        have hcount0 : 0 = (st.wordAt 10).toNat * 2 := h
        omega
      exact wp_notAsked hblocks hbytes (if_neg fun h => hwrong h.2.2.2) _
    · exact wp_notAsked hblocks hbytes (if_neg fun h => hlength h.2.2.2) _
    · have hlength' := not_not.mp hlength
      have hhalf : (st.msg.buf 12).toNat / 2 = (st.wordAt 10).toNat := by omega
      have hrequest : st.writeMultipleRegistersRequest =
          st.callbacks.writeMultipleRegisters.map fun callback =>
            callback (st.wordAt 8) (st.wordAt 10) (st.wordsAt 13 (st.wordAt 10).toNat)
              st.msg.unitId :=
        if_pos ⟨hpos, hlimit, hrange, hlength'⟩
      cases hcallback : st.callbacks.writeMultipleRegisters with
      | none => exact wp_notAsked hblocks hbytes (by rw [hrequest, hcallback]; rfl) _
      | some callback =>
          rw [hcallback] at hrequest
          rw [wp_bind, wp_runCallback, hhalf]
          exact wp_answerWrite hblocks hbytes hrequest _ _

theorem wp_handleReadWriteRegisters (hst : st.Ready) :
    Wp H handleReadWriteRegisters
      (Handled st (242 < st.msg.buf 16) st.readWriteRequest) st := by
  apply wp_of_ready hst
  rw [handleReadWriteRegisters, wp_withState, wp_recv_pass hst.complete, wp_get_two_addresses,
    seek_callbacks]
  by_cases hbytes : 242 < st.msg.buf 16
  · rw [if_pos hbytes]
    exact .invalid hbytes (framed_seek st 17)
  · have hcount : (st.msg.buf 16).toNat ≤ 242 := UInt8.not_lt.mp hbytes
    rw [if_neg hbytes, wp_recv_pass hst.complete, wp_bind,
      wp_getRegisters _ _ _ (by unfold msgBufSize; omega), wordsAt_eq]
    split_ifs with hread hwrite hlength hreadRange hwriteRange
    · exact wp_notAsked hblocks hbytes (readWriteRequest_none fun h => quantity_iff.mpr h.1 hread) _
    · exact wp_notAsked hblocks hbytes
        (readWriteRequest_none fun h => quantity_iff.mpr h.2.1 hwrite) _
    · exact wp_notAsked hblocks hbytes (readWriteRequest_none fun h => hlength h.2.2.1) _
    · exact wp_notAsked hblocks hbytes
        (readWriteRequest_none fun h => inRange_iff.mpr h.2.2.2.1 hreadRange) _
    · exact wp_notAsked hblocks hbytes
        (readWriteRequest_none fun h => inRange_iff.mpr h.2.2.2.2 hwriteRange) _
    · rw [quantity_iff] at hread hwrite
      rw [inRange_iff] at hreadRange hwriteRange
      have hlength' := not_not.mp hlength
      have hhalf : (st.msg.buf 16).toNat / 2 = (st.wordAt 14).toNat := by omega
      have hvalid : st.ReadWriteValid := ⟨hread, hwrite, hlength', hreadRange, hwriteRange⟩
      cases hwriteCallback : st.callbacks.writeMultipleRegisters with
      | none => exact wp_notAsked hblocks hbytes (by rw [readWriteRequest, hwriteCallback]) _
      | some write =>
          cases hreadCallback : st.callbacks.readHoldingRegisters with
          | none =>
              exact wp_notAsked hblocks hbytes
                (by rw [readWriteRequest, hwriteCallback, hreadCallback]) _
          | some read =>
              have hrequest := readWriteRequest_some hwriteCallback hreadCallback hvalid
              dsimp only
              rw [wp_bind, wp_runCallback, hhalf]
              split_ifs with hrun
              · exact wp_refused hblocks hbytes hrequest (Transition.andThen_of_ne _ hrun) hrun _
              · rw [not_not] at hrun
                rw [wp_runReadCallback]
                have hboth := Transition.andThen_of_eq
                  (st.readTransition read 0 (st.wordAt 8) (st.wordAt 10)) hrun
                split_ifs with hrun'
                · exact wp_refused hblocks hbytes hrequest hboth hrun' _
                · have hfit := registers_fit hread.2
                  exact wp_answerData hblocks hbytes hrequest hboth (not_not.mp hrun') hfit
                    (wp_putRegisters_of_fit _ hfit)

theorem wp_handleReadFileRecord (hst : st.Ready) :
    Wp H handleReadFileRecord (Handled st (245 < st.msg.buf 8) none) st := by
  apply wp_of_ready hst
  rw [handleReadFileRecord, wp_recv_pass hst.complete, wp_bind, wp_get1 (by decide)]
  by_cases hbytes : 245 < st.msg.buf 8
  · rw [if_pos hbytes]
    exact .invalid hbytes (framed_seek st 9)
  · have hsize : (st.msg.buf 8).toNat ≤ 245 := UInt8.not_lt.mp hbytes
    rw [if_neg hbytes, wp_recv_pass hst.complete, wp_bind]
    apply wp_getSubrequests _ (by unfold msgBufSize; omega)
    intro subreqs
    rw [wp_bind, wp_discardN]
    split_ifs
    · exact wp_notAsked hblocks hbytes rfl _
    · exact wp_notAsked hblocks hbytes rfl _
    · exact wp_notAsked hblocks hbytes rfl _
    · rw [wp_bind]
      apply wp_mono (wp_putMsgHeader (framed_seek st _) _)
      intro _ st₁ h₁
      rw [wp_bind]
      apply wp_mono (wp_put1 h₁ (by decide) _)
      intro _ st₂ h₂
      apply wp_mono (wp_sendExceptionMsg h₂.framed _ hblocks)
      intro err st₃ h₃
      rw [h₂.fc_eq] at h₃
      exact .notAsked hbytes rfl h₃

theorem wp_handleReadDeviceIdentification (hst : st.Ready) :
    Wp H handleReadDeviceIdentification (Handled st False none) st := by
  apply wp_of_ready hst
  rw [handleReadDeviceIdentification, wp_recv_pass hst.complete, wp_bind, wp_get1 (by decide),
    wp_bind, wp_get1 (by decide), wp_bind, wp_get1 (by decide)]
  exact wp_notAsked hblocks not_false rfl _

theorem wp_handleWriteFileRecord (hst : st.Ready)
    (hfit : ¬ 251 < st.msg.buf 8 → 7 ≤ st.msg.buf 8 →
      st.subrequestsFit msgBufSize 9 (st.msg.buf 8).toUInt16 = false → H .undefined) :
    Wp H handleWriteFileRecord (Handled st (251 < st.msg.buf 8) none) st := by
  apply wp_of_ready hst
  rw [handleWriteFileRecord, wp_recv_pass hst.complete, wp_bind, wp_get1 (by decide)]
  by_cases hbytes : 251 < st.msg.buf 8
  · rw [if_pos hbytes]
    exact .invalid hbytes (framed_seek st 9)
  · rw [if_neg hbytes, wp_recv_pass hst.complete, wp_withState, wp_bind, wp_discardN, wp_bind,
      wp_modify, seek_seek]
    split_ifs with hsize
    · exact wp_notAsked hblocks hbytes rfl _
    · rw [wp_bind]
      apply wp_checkSubrequests _ _ (hfit hbytes (UInt8.not_lt.mp hsize))
      · intro n'
        exact wp_notAsked hblocks hbytes rfl _
      · intro hsubreq left n'
        dsimp only
        split_ifs
        · exact wp_notAsked hblocks hbytes rfl _
        · have hlength : (st.subrequestAt (8 + 1)).recordLength ≤ 122 := by
            simp only [Subrequest.valid, Bool.and_eq_true, decide_eq_true_eq] at hsubreq
            exact hsubreq.2
          have hcount : (st.subrequestAt (8 + 1)).recordLength.toNat ≤ 122 := hlength
          rw [wp_bind, wp_modify, wp_bind, seek_seek, seek_bufIdx, wp_getSubrequest (by decide),
            wp_bind]
          apply wp_getRegs (by unfold msgBufSize; omega)
          intro st' hframed hfc
          apply wp_mono (wp_sendExceptionMsg hframed _ hblocks)
          intro err st'' hreplied
          rw [hfc] at hreplied
          exact .notAsked hbytes rfl hreplied

end Sending

theorem wp_checkSubrequests_of_overrun (hH : H .undefined) (rounds : Nat) (size : UInt16)
    (hfit : st.subrequestsFit rounds n size = false) (Q : Option UInt16 → Nmbs σ → Prop) :
    Wp H (checkSubrequests rounds size) Q (st.seek n) := by
  induction rounds generalizing n size with
  | zero => exact hH
  | succ rounds ih =>
      rw [checkSubrequests, wp_bind]
      by_cases hn : n + 7 ≤ msgBufSize
      · simp only [Nmbs.subrequestsFit, hn, decide_true, Bool.true_and, Bool.or_eq_false_iff,
          Bool.not_eq_false', decide_eq_false_iff_not, UInt16.not_lt] at hfit
        obtain ⟨⟨hsubreq, hleft⟩, hrest⟩ := hfit
        rw [wp_getSubrequest (by omega), wp_bind, wp_discardN, hsubreq, if_neg (by decide)]
        dsimp only
        rw [if_pos hleft]
        exact ih _ hrest
      · exact wp_getSubrequest_of_undefined hH (by omega) _

theorem wp_handleWriteFileRecord_of_overrun (hH : H .undefined) (hst : st.Ready)
    (hbytes : ¬ 251 < st.msg.buf 8) (hsize : 7 ≤ st.msg.buf 8)
    (hfit : st.subrequestsFit msgBufSize 9 (st.msg.buf 8).toUInt16 = false)
    (Q : NmbsError → Nmbs σ → Prop) : Wp H handleWriteFileRecord Q st := by
  apply wp_of_ready hst
  rw [handleWriteFileRecord, wp_recv_pass hst.complete, wp_bind, wp_get1 (by decide),
    if_neg hbytes, wp_recv_pass hst.complete, wp_withState, wp_bind, wp_discardN, wp_bind,
    wp_modify, seek_seek, if_neg (UInt8.not_lt.mpr hsize), wp_bind]
  exact wp_checkSubrequests_of_overrun hH _ _ hfit _

end Handlers

end DriveSim
