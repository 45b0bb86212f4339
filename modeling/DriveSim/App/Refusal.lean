import DriveSim.App.RegisterMachine
import DriveSim.Nmbs.Dispatch

/-!
# Refused requests

A request that is answered with an exception leaves the drive alone, with one exception:
function code 23 writes before it reads, and a refused read does not undo the write.
-/

namespace DriveSim

open Lib Program Nmbs

namespace Nmbs

variable {σ : Type*} (st st' : Nmbs σ)

def torqueCommand? : Option Int16 :=
  match st.msg.fc.toNat with
  | 6 => AppRequest.command? (.writeSingleRegister (st.wordAt 8) (st.wordAt 10))
  | 16 => AppRequest.command? (.writeMultipleRegisters (st.wordAt 8) (st.wordAt 10)
      (st.wordsAt 13 (st.wordAt 10).toNat))
  | 23 => AppRequest.command? (.writeMultipleRegisters (st.wordAt 12) (st.wordAt 14)
      (st.wordsAt 17 (st.wordAt 14).toNat))
  | _ => none

/-- The last thing sent is an exception to the request in `st`. -/
def AnsweredWithException : Prop :=
  ∃ bytes, st'.conn.written = bytes :: st.conn.written ∧ bytes[7]? = some (st.msg.fc + 0x80)

end Nmbs

section Answers

variable {σ : Type*}

theorem wp_handleReqFc_of_ok {st st' : Nmbs σ} (hst : st.Ready) {err : NmbsError}
    (hrun : handleReqFc st = .ok (err, st')) : ∃ conn, st.AnswersOn conn ∧
      Handled (st.setConn conn) st.Malformed st.request err st' := by
  have hwp : Wp (fun _ => True) handleReqFc _ st :=
    wp_handleReqFc hst (fun _ _ => trivial) (fun _ _ => trivial) fun _ => trivial
  exact wp_ok hwp hrun

theorem ne_exceptionFc (fc : UInt8) : fc ≠ fc + 0x80 := by
  intro h
  simp at h

theorem Replied.sent {st st' start : Nmbs σ} {fc : UInt8} {err : NmbsError}
    (h : Replied start fc err st') (hsame : start.conn.written = st.conn.written)
    (hanswered : st.AnsweredWithException st') :
    start.conn.Sends ∧ fc = st.msg.fc + 0x80 := by
  obtain ⟨answer, hwritten, hfc⟩ := hanswered
  by_cases hsent : start.conn.Sends
  · obtain ⟨bytes, hbytes, hbyte⟩ := h.written_of_sent hsent
    rw [hwritten, hsame, List.cons.injEq] at hbytes
    rw [← hbytes.1, hfc, Option.some.injEq] at hbyte
    exact ⟨hsent, hbyte.symm⟩
  · have hunsent := h.written_of_unsent hsent
    rw [hwritten, hsame] at hunsent
    exact absurd hunsent (List.cons_ne_self _ _)

end Answers

section Refusal

variable {K : Type*} [Field K] [LinearOrder K] [FloorRing K] {conv : Conversions K}
  {st st' : Nmbs (AppContext K)}

/-- The torque is the same, and the failure flag has at most been raised for a torque
out of range. -/
structure DriveLeftAlone (st : Nmbs (AppContext K)) (after : AppContext K) : Prop where
  torque_eq : after.vehicle.commandedTorqueNm = st.arg.vehicle.commandedTorqueNm
  not_cleared : st.arg.acceleratorSensorFailure = true → after.acceleratorSensorFailure = true
  raised : st.arg.acceleratorSensorFailure = false → after.acceleratorSensorFailure = true →
    ∃ c, st.torqueCommand? = some c ∧
      st.arg.vehicle.params.motorMaxTorqueNm < |(c.toInt : K)|

def RefusesWithoutEffect (st : Nmbs (AppContext K)) : Prop :=
  ∀ err st', handleReqFc st = .ok (err, st') → st.AnsweredWithException st' →
    DriveLeftAlone st st'.arg

/-- A valid read/write message whose write is accepted, changes something and is followed
by a refused read; the exception reaches the client. -/
structure HalfApplied (st : Nmbs (AppContext K)) : Prop where
  fc_eq : st.msg.fc = 23
  valid : st.ReadWriteValid
  accepted : ∃ c, st.torqueCommand? = some c ∧
    |(c.toInt : K)| ≤ st.arg.vehicle.params.motorMaxTorqueNm ∧
    ((c.toInt : K) ≠ st.arg.vehicle.commandedTorqueNm ∨
      st.arg.acceleratorSensorFailure = true)
  refused : ¬ (st.wordAt 8 = torqueRegisterAddress ∧ st.wordAt 10 = 1)
  sent : st.conn.Sends

/-! ## What a refused transition leaves -/

inductive RefusalEffect (conv : Conversions K) (st : Nmbs (AppContext K)) : AppContext K → Prop
  | nothing : RefusalEffect conv st st.arg
  | outOfRange (c : Int16) (hc : st.torqueCommand? = some c)
      (hinvalid : isTorqueCommandValid conv st.arg c = false) :
      RefusalEffect conv st { st.arg with acceleratorSensorFailure := true }
  | halfApplied (hfc : st.msg.fc = 23) (hvalid : st.ReadWriteValid) (c : Int16)
      (hc : st.torqueCommand? = some c) (haccepted : isTorqueCommandValid conv st.arg c = true)
      (hrefused : ¬ (st.wordAt 8 = torqueRegisterAddress ∧ st.wordAt 10 = 1)) :
      RefusalEffect conv st
        { vehicle := st.arg.vehicle.setTorque c.toInt, acceleratorSensorFailure := false }

theorem refused_command {command : Option Int16} (hcommand : st.torqueCommand? = command)
    (hrun : (st.arg.command conv command).1 ≠ .none) :
    RefusalEffect conv st (st.arg.command conv command).2 := by
  cases command with
  | none => exact .nothing
  | some c =>
      cases hvalid : isTorqueCommandValid conv st.arg c with
      | true => simp [AppContext.command, hvalid] at hrun
      | false =>
          simp only [AppContext.command, hvalid]
          exact .outOfRange c hcommand hvalid

theorem readTransition_readHoldingRegisters (address quantity : UInt16)
    (context : AppContext K) :
    st.readTransition (fun address quantity out _ =>
        readHoldingRegisters conv address quantity out) 0 address quantity context =
      (if address = torqueRegisterAddress ∧ quantity = 1 then .none else .illegalDataAddress,
        context) := by
  simp only [readTransition, readHoldingRegisters_eq]
  split_ifs <;> rfl

theorem refused_read {context : AppContext K} (h : context = st.arg) :
    RefusalEffect conv st context := by
  rw [h]
  exact .nothing

/-- When the write was accepted, a refused read leaves it in place. -/
theorem refused_readWrite (hfc : st.msg.fc.toNat = 23) (hvalid : st.ReadWriteValid)
    {run : Transition (AppContext K)}
    (hrequest : run = Transition.andThen (fun context => context.command conv st.torqueCommand?)
      (st.readTransition (fun address quantity out _ =>
        readHoldingRegisters conv address quantity out) 0 (st.wordAt 8) (st.wordAt 10)))
    (hrun : (run st.arg).1 ≠ .none) : RefusalEffect conv st (run st.arg).2 := by
  subst hrequest
  by_cases hwrite : (st.arg.command conv st.torqueCommand?).1 = .none
  · rw [Transition.andThen_of_eq _ hwrite, readTransition_readHoldingRegisters] at hrun ⊢
    have hrefused : ¬ (st.wordAt 8 = torqueRegisterAddress ∧ st.wordAt 10 = 1) := by
      intro hread
      exact hrun (if_pos hread)
    cases hcommand : st.torqueCommand? with
    | none =>
        rw [hcommand] at hwrite
        exact NmbsError.noConfusion hwrite
    | some c =>
        rw [hcommand] at hwrite
        cases haccepted : isTorqueCommandValid conv st.arg c with
        | false => simp [AppContext.command, haccepted] at hwrite
        | true =>
            simp only [AppContext.command, haccepted]
            exact .halfApplied (UInt8.toNat_inj.mp hfc) hvalid c hcommand haccepted hrefused
  · rw [Transition.andThen_of_ne _ hwrite]
    exact refused_command rfl hwrite

/-- Function code 23 asks for a write and then a read of the torque register. -/
theorem readWriteRequest_eq (hcallbacks : st.callbacks = appCallbacks conv)
    (hfc : st.msg.fc.toNat = 23) (hvalid : st.ReadWriteValid) :
    st.readWriteRequest = some (Transition.andThen
      (fun context => context.command conv st.torqueCommand?)
      (st.readTransition (fun address quantity out _ =>
        readHoldingRegisters conv address quantity out) 0 (st.wordAt 8) (st.wordAt 10))) := by
  have hwrite : (fun context => context.command conv st.torqueCommand?) =
      writeMultipleRegisters conv (st.wordAt 12) (st.wordAt 14)
        (st.wordsAt 17 (st.wordAt 14).toNat) := by
    ext context : 1
    rw [writeMultipleRegisters_eq_command]
    simp only [torqueCommand?, hfc]
  rw [hwrite]
  exact readWriteRequest_some (by rw [hcallbacks]; rfl) (by rw [hcallbacks]; rfl) hvalid

theorem refused_effect (hcallbacks : st.callbacks = appCallbacks conv)
    {run : Transition (AppContext K)} (hrequest : st.request = some run)
    (hrun : (run st.arg).1 ≠ .none) : RefusalEffect conv st (run st.arg).2 := by
  unfold Nmbs.request requestFor at hrequest
  split at hrequest
  case h_1 hfc => simp [hcallbacks, appCallbacks, readDiscreteRequest] at hrequest
  case h_2 hfc =>
    simp only [hcallbacks, appCallbacks, readDiscreteRequest, Option.map_some,
      Option.ite_none_right_eq_some, Option.some.injEq] at hrequest
    obtain ⟨_, rfl⟩ := hrequest
    apply refused_read
    simp only [readTransition, readDiscreteInputs_eq]
    split_ifs <;> rfl
  case h_3 hfc =>
    simp only [hcallbacks, appCallbacks, readRegistersRequest, Option.map_some,
      Option.ite_none_right_eq_some, Option.some.injEq] at hrequest
    obtain ⟨_, rfl⟩ := hrequest
    rw [readTransition_readHoldingRegisters]
    exact .nothing
  case h_4 hfc =>
    simp only [hcallbacks, appCallbacks, readRegistersRequest, Option.map_some,
      Option.ite_none_right_eq_some, Option.some.injEq] at hrequest
    obtain ⟨_, rfl⟩ := hrequest
    exact refused_read (readInputRegisters_context ..)
  case h_5 hfc => simp [hcallbacks, appCallbacks, writeSingleCoilRequest] at hrequest
  case h_6 hfc =>
    simp only [hcallbacks, appCallbacks, writeSingleRegisterRequest, Option.map_some,
      Option.some.injEq] at hrequest
    subst hrequest
    rw [writeSingleRegister_eq_command] at hrun ⊢
    exact refused_command (by simp only [torqueCommand?, hfc]) hrun
  case h_7 hfc => simp [hcallbacks, appCallbacks, writeMultipleCoilsRequest] at hrequest
  case h_8 hfc =>
    simp only [hcallbacks, appCallbacks, writeMultipleRegistersRequest, Option.map_some,
      Option.ite_none_right_eq_some, Option.some.injEq] at hrequest
    obtain ⟨_, rfl⟩ := hrequest
    rw [writeMultipleRegisters_eq_command] at hrun ⊢
    exact refused_command (by simp only [torqueCommand?, hfc]) hrun
  case h_9 hfc =>
    by_cases hvalid : st.ReadWriteValid
    · rw [readWriteRequest_eq hcallbacks hfc hvalid, Option.some.injEq] at hrequest
      exact refused_readWrite hfc hvalid hrequest.symm hrun
    · rw [readWriteRequest_none hvalid] at hrequest
      exact absurd hrequest (by simp)
  case h_10 => exact absurd hrequest (by simp)

section Bounds

variable [IsStrictOrderedRing K]

omit [FloorRing K] [IsStrictOrderedRing K] in
theorem DriveLeftAlone.refl (st : Nmbs (AppContext K)) : DriveLeftAlone st st.arg where
  torque_eq := rfl
  not_cleared := id
  raised hclear hset := absurd (hclear.symm.trans hset) (by decide)

omit [FloorRing K] in
theorem setTorque_accepted {v : Vehicle K} {x : K} (h : |x| ≤ v.params.motorMaxTorqueNm) :
    (v.setTorque x).commandedTorqueNm = x := by
  rw [Vehicle.setTorque_commandedTorqueNm]
  exact clamp_eq_self (abs_le.mp h).1 (abs_le.mp h).2

theorem RefusalEffect.driveLeftAlone {after : AppContext K}
    (hnonneg : 0 ≤ st.arg.vehicle.params.motorMaxTorqueNm)
    (hlt : st.arg.vehicle.params.motorMaxTorqueNm < 32768)
    (h : RefusalEffect conv st after) (hsent : st.conn.Sends)
    (hnot : ¬ HalfApplied st) : DriveLeftAlone st after := by
  have hvalid_iff := isTorqueCommandValid_iff conv st.arg hnonneg hlt
  cases h with
  | nothing => exact DriveLeftAlone.refl st
  | outOfRange c hc hinvalid =>
      have hlarge : ¬ |(c.toInt : K)| ≤ st.arg.vehicle.params.motorMaxTorqueNm := by
        rw [← hvalid_iff, hinvalid]
        decide
      exact ⟨rfl, fun _ => rfl, fun _ _ => ⟨c, hc, not_le.mp hlarge⟩⟩
  | halfApplied hfc hvalid c hc haccepted hrefused =>
      have hlimit := (hvalid_iff c).mp haccepted
      have hunchanged : ¬ ((c.toInt : K) ≠ st.arg.vehicle.commandedTorqueNm ∨
          st.arg.acceleratorSensorFailure = true) := by
        intro hchange
        exact hnot ⟨hfc, hvalid, ⟨c, hc, hlimit, hchange⟩, hrefused, hsent⟩
      rw [not_or, not_not] at hunchanged
      obtain ⟨htorque, hflag⟩ := hunchanged
      refine ⟨?_, fun hset => absurd hset hflag, fun _ hset => Bool.noConfusion hset⟩
      exact (setTorque_accepted hlimit).trans htorque

theorem HalfApplied.run (h : HalfApplied st) (hst : st.Ready)
    (hcallbacks : st.callbacks = appCallbacks conv)
    (hnonneg : 0 ≤ st.arg.vehicle.params.motorMaxTorqueNm)
    (hlt : st.arg.vehicle.params.motorMaxTorqueNm < 32768) :
    ∃ err st' c, handleReqFc st = .ok (err, st') ∧ st.AnsweredWithException st' ∧
      st'.arg = { vehicle := st.arg.vehicle.setTorque ((c : Int16).toInt : K),
                  acceleratorSensorFailure := false } ∧
      |(c.toInt : K)| ≤ st.arg.vehicle.params.motorMaxTorqueNm ∧
      ((c.toInt : K) ≠ st.arg.vehicle.commandedTorqueNm ∨
        st.arg.acceleratorSensorFailure = true) := by
  have hfc : st.msg.fc.toNat = 23 := by rw [h.fc_eq]; rfl
  obtain ⟨c, hc, hlimit, hchange⟩ := h.accepted
  have hdispatch : st.request = st.readWriteRequest := by
    rw [Nmbs.request, hfc]
    rfl
  have hrequest := hdispatch.trans (readWriteRequest_eq hcallbacks hfc h.valid)
  generalize hboth : Transition.andThen _ _ = run at hrequest
  have hrun : run st.arg = (.illegalDataAddress,
      { vehicle := st.arg.vehicle.setTorque (c.toInt : K)
        acceleratorSensorFailure := false }) := by
    have hvalid := (isTorqueCommandValid_iff conv st.arg hnonneg hlt c).mpr hlimit
    have hwrite : st.arg.command conv st.torqueCommand? = (.none,
        { vehicle := st.arg.vehicle.setTorque c.toInt, acceleratorSensorFailure := false }) := by
      rw [hc, AppContext.command, if_pos hvalid]
    rw [← hboth, Transition.andThen_of_eq _ (by rw [hwrite]), hwrite,
      readTransition_readHoldingRegisters, if_neg h.refused]
  have hwp : Wp (fun _ => False) handleReqFc _ st :=
    wp_handleReqFc hst (fun _ hscan => hscan fun h21 => absurd (hfc.symm.trans h21) (by decide))
      (fun hunsupported => absurd (by rw [hfc]; decide) hunsupported) h.sent.not_sendBlocks
  obtain ⟨err, st', hreq, conn, hanswers, hhandled⟩ := wp_total hwp
  refine ⟨err, st', c, hreq, and_assoc.mp ⟨?_, hlimit, hchange⟩⟩
  have hwell : ¬ st.Malformed := by
    have hlength := h.valid.2.2.1
    have hquantity : st.wordAt 14 = 1 := by
      simp only [torqueCommand?, hfc] at hc
      exact (AppRequest.command?_multiple_eq_some.mp hc).1.2
    rw [Malformed, hfc]
    apply UInt8.not_lt.mpr
    show (st.msg.buf 16).toNat ≤ 242
    rw [hlength, hquantity]
    decide
  have hrefused : (run st.arg).1 ≠ .none := by
    rw [hrun]
    exact NmbsError.noConfusion
  cases hhandled with
  | invalid hmalformed hframed => exact absurd hmalformed hwell
  | notAsked hvalid hnone hreplied =>
      rw [hrequest] at hnone
      exact absurd hnone (Option.some_ne_none _)
  | refused hvalid hsome hrun' hreplied =>
      obtain rfl := Option.some.inj (hrequest.symm.trans hsome)
      have hsent : conn.Sends := (Conn.sends_congr hanswers.sent_eq.2).mpr h.sent
      obtain ⟨bytes, hbytes, hbyte⟩ := hreplied.written_of_sent hsent
      apply And.intro
      · exact ⟨bytes, hbytes.trans (by rw [← hanswers.sent_eq.1]; rfl), hbyte⟩
      · rw [hreplied.arg_eq]
        exact congrArg Prod.snd hrun
  | served hvalid hsome hrun' hreplied =>
      obtain rfl := Option.some.inj (hrequest.symm.trans hsome)
      exact absurd hrun' hrefused

/-- A refused request leaves the drive alone, unless it is a read/write message that is
refused only after its write. -/
theorem refusesWithoutEffect_iff (hst : st.Ready) (hcallbacks : st.callbacks = appCallbacks conv)
    (hnonneg : 0 ≤ st.arg.vehicle.params.motorMaxTorqueNm)
    (hlt : st.arg.vehicle.params.motorMaxTorqueNm < 32768) :
    RefusesWithoutEffect st ↔ ¬ HalfApplied st := by
  constructor
  · intro hrefuses hhalf
    obtain ⟨err, st', c, hreq, hanswered, harg, hlimit, hchange⟩ :=
      hhalf.run hst hcallbacks hnonneg hlt
    have halone := hrefuses err st' hreq hanswered
    rw [harg] at halone
    cases hchange with
    | inl hne =>
        have htorque := halone.torque_eq
        rw [setTorque_accepted hlimit] at htorque
        exact hne htorque
    | inr hset => exact Bool.noConfusion (halone.not_cleared hset)
  · intro hnot err st' hreq hanswered
    obtain ⟨conn, hanswers, hhandled⟩ := wp_handleReqFc_of_ok hst hreq
    have hwritten : conn.written = st.conn.written := hanswers.sent_eq.1
    have hsends : conn.sends = st.conn.sends := hanswers.sent_eq.2
    cases hhandled with
    | invalid hmalformed hframed =>
        rw [hframed.arg_eq]
        exact DriveLeftAlone.refl st
    | notAsked hvalid hnone hreplied =>
        rw [hreplied.arg_eq]
        exact DriveLeftAlone.refl st
    | refused hvalid hsome hrun hreplied =>
        have hsent := (hreplied.sent hwritten hanswered).1
        rw [hreplied.arg_eq]
        exact (refused_effect hcallbacks hsome hrun).driveLeftAlone hnonneg hlt
          ((Conn.sends_congr hsends).mp hsent) hnot
    | served hvalid hsome hrun hreplied =>
        exact absurd (hreplied.sent hwritten hanswered).2 (ne_exceptionFc _)

end Bounds

/-- The message "write 100 to the torque register, then read register 1" on the vehicle of
`main`, from a client whose connection works. -/
def readOutsideRequest : Nmbs (AppContext ℚ) where
  msg := ⟨fun i => [0, 1, 0, 0, 0, 13, 1, 23, 0, 1, 0, 1, 0, 0, 0, 1, 2, 0, 100].getD i 0, 8, 1,
    23, 1, true⟩
  byteTimeoutMs := 1000
  readTimeoutMs := 1000
  callbacks := appCallbacks Conversions.wrapping
  arg := appInit mainParams 0
  conn := ⟨⟨[], .stillOpen⟩, 1000, 0, fun _ => some ⟨.success, 0⟩, []⟩

theorem readOutsideRequest_halfApplied : HalfApplied readOutsideRequest where
  fc_eq := rfl
  valid := by decide
  accepted := ⟨100, by decide, by decide +kernel, .inl (by decide +kernel)⟩
  refused := by decide
  sent := rfl

theorem refusesWithoutEffect_iff_readOutside : ¬ RefusesWithoutEffect readOutsideRequest := by
  rw [refusesWithoutEffect_iff ⟨rfl, rfl⟩ rfl (by decide +kernel) (by decide +kernel), not_not]
  exact readOutsideRequest_halfApplied

/-- The client is told "illegal data address", and the torque is 100 Nm afterwards. -/
theorem readOutside_applies_write :
    (∃ err st', handleReqFc readOutsideRequest = .ok (err, st') ∧
      st'.conn.written = [[0, 1, 0, 0, 0, 3, 1, 0x97, 2]] ∧
      readOutsideRequest.arg.vehicle.commandedTorqueNm = 0 ∧
      st'.arg.vehicle.commandedTorqueNm = 100) ∧ ¬ RefusesWithoutEffect readOutsideRequest := by
  have hrun : ((handleReqFc readOutsideRequest).toOption.map fun r =>
      (r.2.conn.written, r.2.arg.vehicle.commandedTorqueNm)) =
      some ([[0, 1, 0, 0, 0, 3, 1, 0x97, 2]], 100) := by decide +kernel
  have hbefore : readOutsideRequest.arg.vehicle.commandedTorqueNm = 0 := by decide +kernel
  obtain ⟨⟨err, st'⟩, hreq, hresult⟩ := exists_ok_of_map hrun
  obtain ⟨hwritten, htorque⟩ := Prod.mk.inj hresult
  refine ⟨⟨err, st', hreq, hwritten, hbefore, htorque⟩, fun hrefuses => ?_⟩
  have halone := hrefuses err st' hreq ⟨_, hwritten, rfl⟩
  have hsame := halone.torque_eq
  simp only at htorque
  rw [hbefore, htorque] at hsame
  exact absurd hsame (by norm_num)

end Refusal

end DriveSim
