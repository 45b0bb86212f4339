import DriveSim.Nmbs.Answers
import DriveSim.Nmbs.Exchange
import DriveSim.Server.Interleaving
import DriveSim.Server.Release

/-!
# The ledger of a server

Every message a server takes from a client is entered once, with the bytes it consisted of
and the answer it got.  The entries of all clients, one after another, explain everything
the server has read and sent, and what has become of the user data.
-/

namespace DriveSim

open Lib Program Nmbs

variable {σ : Type*}

/-! ## Entries -/

/-- A message that has been handled: the state it was handled in, its bytes behind the
header, and the answer if one was sent. -/
structure Exchange (σ : Type*) where
  request : Nmbs σ
  body : List UInt8
  answer : Option (List UInt8)
  body_le : body.length ≤ 252
  stored : messageBytes request.msg.buf (8 + body.length) =
    frame request.msg.transactionId request.msg.unitId request.msg.fc body
  answer_eq : ∀ bytes, answer = some bytes → request.reply.1.answer request.msg = some bytes

namespace Exchange

def bytes (e : Exchange σ) : List UInt8 :=
  frame e.request.msg.transactionId e.request.msg.unitId e.request.msg.fc e.body

theorem isAnswer (e : Exchange σ) {bytes : List UInt8} (h : e.answer = some bytes) :
    IsAnswer e.request.msg bytes :=
  isAnswer_of_reply (e.answer_eq bytes h)

end Exchange

/-- Each entry starts with the user data the one before has left. -/
inductive Ledger (callbacks : NmbsCallbacks σ) : σ → List (Exchange σ) → σ → Prop
  | nil (arg : σ) : Ledger callbacks arg [] arg
  | cons {e : Exchange σ} {es : List (Exchange σ)} {arg' : σ}
      (hcallbacks : e.request.callbacks = callbacks)
      (rest : Ledger callbacks e.request.reply.2 es arg') :
      Ledger callbacks e.request.arg (e :: es) arg'

theorem Ledger.append {callbacks : NmbsCallbacks σ} {arg arg₁ arg' : σ}
    {es es' : List (Exchange σ)} (h : Ledger callbacks arg es arg₁)
    (h' : Ledger callbacks arg₁ es' arg') : Ledger callbacks arg (es ++ es') arg' := by
  induction h with
  | nil arg => exact h'
  | cons hcallbacks _ ih => exact .cons hcallbacks (ih h')

/-- The entries take bytes off a stream, one after another.  Something is dropped only behind
a message that has no handler or gets no answer. -/
inductive Takes : List (Exchange σ) → List UInt8 → List UInt8 → Prop
  | nil (left : List UInt8) : Takes [] left left
  | cons {e : Exchange σ} {es : List (Exchange σ)} {dropped rest left : List UInt8}
      (hdropped : e.answer.isSome → e.request.msg.fc.toNat ∈ supportedFcs → dropped = [])
      (h : Takes es rest left) : Takes (e :: es) (e.bytes ++ (dropped ++ rest)) left

theorem Takes.infix {es : List (Exchange σ)} {bytes left : List UInt8} (h : Takes es bytes left) :
    ∀ e ∈ es, e.bytes <:+: bytes := by
  induction h with
  | nil => exact fun e he => absurd he List.not_mem_nil
  | cons _ _ ih =>
      intro e he
      obtain rfl | he := List.mem_cons.mp he
      · exact (List.prefix_append _ _).isInfix
      · exact (ih e he).trans ((List.suffix_append _ _).trans (List.suffix_append _ _)).isInfix

/-! ## The message behind an entry -/

theorem messageBytes_storeAt (buf : Cells UInt8) (bytes : List UInt8) :
    messageBytes (storeAt buf 0 bytes) bytes.length = bytes := by
  apply List.ext_getElem
  · rw [messageBytes, List.length_map, List.length_range]
  · intro i _ hi
    have hstored : 0 ≤ i ∧ i < 0 + bytes.length := by omega
    simp only [messageBytes, List.getElem_map, List.getElem_range, storeAt, if_pos hstored]
    rw [Nat.sub_zero, List.getD_eq_getElem _ _ hi]

def Nmbs.body (st : Nmbs σ) : List UInt8 := (st.conn.incoming.elements.drop 8).take st.bodyLength

namespace Nmbs.Arrives

variable {st : Nmbs σ}

theorem length_body (h : st.Arrives) : st.body.length = st.bodyLength := by
  have hfit : st.bodyLength ≤ (st.conn.incoming.drop 8).arrivals.length := h.body.2.2.1
  rw [TimedStream.drop, List.length_drop] at hfit
  rw [Nmbs.body, List.length_take, List.length_drop, TimedStream.length_elements]
  omega

theorem take_eq (h : st.Arrives) :
    st.conn.incoming.elements.take (8 + st.bodyLength) =
      frame st.received.msg.transactionId st.received.msg.unitId st.received.msg.fc st.body := by
  have height : 8 ≤ st.conn.incoming.elements.length := by
    rw [TimedStream.length_elements]
    exact h.header.eight_le
  have hprotocol := h.protocolId_eq
  have hlength : st.lengthField.toNat = 2 + st.body.length := by
    have hmin : 2 ≤ st.lengthField.toNat := h.length.1
    rw [h.length_body, bodyLength]
    omega
  have hmsg : st.received.msg = st.messageAfter (8 + st.bodyLength) true := rfl
  rw [List.take_add, ← Nmbs.body]
  simp only [protocolId, lengthField, bufferAfter] at hprotocol hlength
  simp only [hmsg, messageAfter, bufferAfter]
  generalize st.conn.incoming.elements = elements at height hprotocol hlength ⊢
  rcases elements with _ | ⟨b₀, _ | ⟨b₁, _ | ⟨b₂, _ | ⟨b₃, _ | ⟨b₄, _ | ⟨b₅, _ | ⟨b₆,
    _ | ⟨b₇, rest⟩⟩⟩⟩⟩⟩⟩⟩
  iterate 8 exact absurd height (by simp)
  exact eq_frame hprotocol hlength

theorem stored (h : st.Arrives) :
    messageBytes st.received.msg.buf (8 + st.body.length) =
      frame st.received.msg.transactionId st.received.msg.unitId st.received.msg.fc st.body := by
  have hlength : (st.conn.incoming.elements.take (8 + st.bodyLength)).length =
      8 + st.body.length := by
    rw [h.take_eq, length_frame]
  have hbytes := messageBytes_storeAt st.msg.buf
    (st.conn.incoming.elements.take (8 + st.bodyLength))
  rw [hlength] at hbytes
  rw [← h.take_eq]
  exact hbytes

end Nmbs.Arrives

def Nmbs.exchange (st : Nmbs σ) (h : st.Arrives) : Exchange σ where
  request := st.received
  body := st.body
  answer := if st.conn.Sends then st.received.reply.1.answer st.received.msg else none
  body_le := by
    have hfit := h.body.2.1
    rw [h.length_body]
    unfold msgBufSize at hfit
    omega
  stored := h.stored
  answer_eq := fun _ hanswer => (Option.ite_none_right_eq_some.mp hanswer).2

/-- A poll makes an entry exactly when a whole message comes. -/
def Nmbs.ledgerEntry (st : Nmbs σ) : Option (Exchange σ) :=
  if h : st.Arrives then some (st.exchange h) else none

theorem ledgerEntry_of_missing {st : Nmbs σ} (h : ¬ st.Arrives) : st.ledgerEntry = none := dif_neg h

theorem ledgerEntry_of_arrives {st : Nmbs σ} (h : st.Arrives) :
    st.ledgerEntry = some (st.exchange h) :=
  dif_pos h

/-! ## Sessions -/

def polls : Nat → Nmbs σ → List (Nmbs σ)
  | 0, _ => []
  | fuel + 1, st =>
      match sessionRound st with
      | .ok (none, st') => st :: polls fuel st'
      | .ok (some _, _) => [st]
      | .error _ => []

def entriesInSession (fuel : Nat) (st : Nmbs σ) : List (Exchange σ) :=
  (polls fuel st).filterMap Nmbs.ledgerEntry

/-- The last poll finds no whole message, or one that gets no answer. -/
def Settled (states : List (Nmbs σ)) : Prop :=
  ∃ last, states.getLast? = some last ∧ ∀ e, last.ledgerEntry = some e → e.answer = none

/-- What the entries of a session say about the bytes that it reads and sends, and about the
user data. -/
structure Recorded (st : Nmbs σ) (es : List (Exchange σ)) (sent : List (List UInt8))
    (arg' : σ) : Prop where
  ledger : Ledger st.callbacks st.arg es arg'
  takes : ∃ left, Takes es st.conn.incoming.elements left
  sent_eq : sent = st.conn.written.reverse ++ es.filterMap Exchange.answer
  answered : ∀ e ∈ es.dropLast, e.answer.isSome

section Session

variable {st st₁ : Nmbs σ} {es : List (Exchange σ)} {sent : List (List UInt8)} {arg' : σ}

theorem Recorded.nothing (st : Nmbs σ) : Recorded st [] st.conn.written.reverse st.arg where
  ledger := .nil _
  takes := ⟨_, .nil _⟩
  sent_eq := (List.append_nil _).symm
  answered := fun _ he => absurd he List.not_mem_nil

theorem Recorded.idle (hquiet : Quiet st st₁)
    (helements : st₁.conn.incoming.elements = st.conn.incoming.elements)
    (h : Recorded st₁ es sent arg') : Recorded st es sent arg' := by
  refine ⟨?_, ?_, ?_, h.answered⟩
  · rw [← hquiet.callbacks_eq, ← hquiet.arg_eq]
    exact h.ledger
  · rw [← helements]
    exact h.takes
  · rw [← hquiet.written_eq]
    exact h.sent_eq

theorem answer_exchange (h : st.Arrives) : (st.exchange h).answer.toList = st.answers := by
  rw [Nmbs.exchange, answers]
  split_ifs <;> rfl

theorem dropLast_subset_cons {α : Type*} {x y : α} {xs : List α} (h : y ∈ (x :: xs).dropLast) :
    y = x ∨ y ∈ xs.dropLast := by
  cases xs with
  | nil => exact absurd h List.not_mem_nil
  | cons z xs => exact List.mem_cons.mp h

/-- A message that is answered comes in front of the record of the rest. -/
theorem Recorded.message (hmessage : MessageEffect st .none st₁)
    (h : Recorded st₁ es sent arg') :
    Recorded st (st.exchange hmessage.arrives :: es) sent arg' := by
  obtain ⟨bytes, _, hanswers⟩ := hmessage.answered rfl
  have hanswer : (st.exchange hmessage.arrives).answer = some bytes := by
    rw [← Option.toList_eq_singleton_iff, answer_exchange, hanswers]
  obtain ⟨left, htakes⟩ := h.takes
  obtain ⟨dropped, helements, hdropped⟩ := hmessage.taken
  refine ⟨?_, ⟨left, ?_⟩, ?_, ?_⟩
  · have hledger := h.ledger
    rw [hmessage.callbacks_eq, hmessage.arg_eq] at hledger
    exact .cons (e := st.exchange hmessage.arrives) rfl hledger
  · rw [← List.take_append_drop (8 + st.bodyLength) st.conn.incoming.elements, helements,
      hmessage.arrives.take_eq]
    exact .cons (fun _ hsupported => hdropped hsupported rfl) htakes
  · rw [h.sent_eq, hmessage.written_eq, hanswers, List.filterMap_cons, hanswer,
      List.reverse_append, List.append_assoc]
    rfl
  · intro e he
    obtain rfl | he := dropLast_subset_cons he
    · rw [hanswer]
      rfl
    · exact h.answered e he

theorem Recorded.unanswered {err : NmbsError} (hmessage : MessageEffect st err st₁)
    (herr : err ≠ .none) : (st.exchange hmessage.arrives).answer = none ∧
      Recorded st [st.exchange hmessage.arrives] st₁.conn.written.reverse st₁.arg := by
  have hnothing := hmessage.unanswered herr
  have hanswer : (st.exchange hmessage.arrives).answer = none := by
    rw [← Option.toList_eq_nil_iff, answer_exchange, hnothing]
  obtain ⟨dropped, helements, hdropped⟩ := hmessage.taken
  refine ⟨hanswer, ?_, ⟨st₁.conn.incoming.elements, ?_⟩, ?_, fun e he => ?_⟩
  · rw [hmessage.arg_eq]
    exact .cons (e := st.exchange hmessage.arrives) rfl (.nil _)
  · rw [← List.take_append_drop (8 + st.bodyLength) st.conn.incoming.elements, helements,
      hmessage.arrives.take_eq]
    refine .cons (fun hsome => ?_) (.nil _)
    rw [hanswer] at hsome
    exact Bool.noConfusion hsome
  · rw [hmessage.written_eq, hnothing, List.filterMap_cons, hanswer, List.filterMap_nil,
      List.append_nil]
    rfl
  · exact absurd he List.not_mem_nil

theorem Recorded.last {err : NmbsError} (hpoll : PollEffect st err st₁) (herr : err ≠ .none) :
    Settled [st] ∧
      Recorded st ([st].filterMap Nmbs.ledgerEntry) st₁.conn.written.reverse st₁.arg := by
  rw [Settled]
  cases hpoll with
  | idle _ _ _ => exact absurd rfl herr
  | failed hquiet hmissing _ =>
      have hnone := ledgerEntry_of_missing hmissing
      refine ⟨⟨st, rfl, fun e he => absurd (hnone.symm.trans he) (by simp)⟩, ?_⟩
      rw [List.filterMap_cons, hnone, hquiet.written_eq, hquiet.arg_eq]
      exact .nothing st
  | message hmessage =>
      have hsome := ledgerEntry_of_arrives hmessage.arrives
      obtain ⟨hanswer, hrecorded⟩ := Recorded.unanswered hmessage herr
      refine ⟨⟨st, rfl, fun e he => ?_⟩, ?_⟩
      · rw [← Option.some.inj (hsome.symm.trans he)]
        exact hanswer
      · rw [List.filterMap_cons, hsome]
        exact hrecorded

theorem Recorded.next (hpoll : PollEffect st .none st₁) {states : List (Nmbs σ)}
    (h : Recorded st₁ (states.filterMap Nmbs.ledgerEntry) sent arg') :
    Recorded st ((st :: states).filterMap Nmbs.ledgerEntry) sent arg' := by
  rw [List.filterMap_cons]
  cases hpoll with
  | idle hquiet hmissing hnothing =>
      rw [ledgerEntry_of_missing hmissing]
      exact h.idle hquiet hnothing
  | failed _ _ herr => exact absurd rfl herr
  | message hmessage =>
      rw [ledgerEntry_of_arrives hmessage.arrives]
      exact h.message hmessage

theorem effect_of_round {r : Option NmbsError} (h : sessionRound st = .ok (r, st₁)) :
    ∃ err, PollEffect st err st₁ ∧ (err = .none ↔ r = none) := by
  have hround : Wp (fun _ => True) sessionRound (fun r st' => ∃ err, PollEffect st err st' ∧
      (err = .none ↔ r = none)) st := by
    rw [sessionRound, wp_bind]
    apply wp_mono (wp_weaken (wp_nmbsServerPoll_effect st) fun _ _ => trivial)
    intro err st' hpoll
    split_ifs with herr htransport
    · exact ⟨err, hpoll, iff_of_true herr rfl⟩
    · exact ⟨err, hpoll, iff_of_false herr (Option.some_ne_none _)⟩
    · exact ⟨err, hpoll, iff_of_false herr (Option.some_ne_none _)⟩
  exact wp_ok hround h

/-- The entries of a session explain it, wherever it is stopped. -/
theorem session_recorded (fuel : Nat) (st : Nmbs σ) :
    ∃ arg', Recorded st (entriesInSession fuel st) (sentInSession fuel st) arg' ∧
      ∀ err st', loop sessionRound fuel st = .ok (err, st') →
        st'.arg = arg' ∧ Settled (polls fuel st) := by
  induction fuel generalizing st with
  | zero => exact ⟨st.arg, .nothing st, fun _ _ h => by cases h⟩
  | succ fuel ih =>
      rw [entriesInSession, polls, sentInSession, loop_succ]
      cases hround : sessionRound st with
      | error halted => exact ⟨st.arg, .nothing st, fun _ _ h => by cases h⟩
      | ok r =>
          obtain ⟨r, st₁⟩ := r
          obtain ⟨err, hpoll, hr⟩ := effect_of_round hround
          cases r with
          | none =>
              obtain rfl := hr.mpr rfl
              obtain ⟨arg', hrest, hover⟩ := ih st₁
              refine ⟨arg', hrest.next hpoll, fun err st' hloop => ?_⟩
              obtain ⟨harg, last, hlast, hunanswered⟩ := hover err st' hloop
              refine ⟨harg, last, ?_, hunanswered⟩
              rw [List.getLast?_cons, hlast]
              rfl
          | some result =>
              have herr : err ≠ .none := fun herr => Option.some_ne_none _ (hr.mp herr)
              obtain ⟨hsettled, hrecorded⟩ := Recorded.last hpoll herr
              refine ⟨st₁.arg, hrecorded, fun err' st' hsame => ?_⟩
              obtain ⟨_, rfl⟩ := Prod.mk.inj (Except.ok.inj hsame)
              exact ⟨rfl, hsettled⟩

end Session

/-! ## The whole run -/

def SocketScript.SetsUp (script : SocketScript) : Prop :=
  script.libInit = .success ∧ script.socket = .success ∧ script.bind = .success ∧
    script.listen = .success

instance (script : SocketScript) : Decidable script.SetsUp := inferInstanceAs (Decidable (_ ∧ _))

def SocketScript.clients (script : SocketScript) : List Accept :=
  if script.SetsUp then script.accepts else []

section Run

variable {config : ModbusTcpConfig} {callbacks : NmbsCallbacks σ}

section SetUp

variable {H : Halt → Prop} {Q : Exit → Server σ → Prop} {fuel : Nat} {script : SocketScript}
  {userData : σ}

theorem wp_modbusTcpRun_of_setsUp (hsetup : script.SetsUp)
    (haccept : ∀ log, Wp H (acceptLoop (fun userData conn => runModbusSession fuel config
      callbacks userData conn) script.accepts) Q ⟨userData, log⟩) :
    Wp H (modbusTcpRun fuel config callbacks script) Q ⟨userData, []⟩ := by
  obtain ⟨hlibInit, hsocket, hbind, hlisten⟩ := hsetup
  exact wp_modbusTcpRun_of (fun h => absurd hlibInit h) (fun _ h => absurd hsocket h)
    (fun _ _ h => absurd hbind h) (fun _ _ _ h => absurd hlisten h) fun _ _ _ _ => haccept _

theorem wp_modbusTcpRun_of_not_setsUp (hsetup : ¬ script.SetsUp)
    (hQ : ∀ exit log, Q exit ⟨userData, log⟩) :
    Wp H (modbusTcpRun fuel config callbacks script) Q ⟨userData, []⟩ := by
  have hcleanup : ∀ listening result log, Wp H (cleanup listening result) Q ⟨userData, log⟩ := by
    intro listening result log
    rw [wp_of_eq (cleanup_eq listening result _)]
    exact hQ _ _
  exact wp_modbusTcpRun_of (fun _ => hQ _ _) (fun _ _ => hcleanup _ _ _)
    (fun _ _ _ => hcleanup _ _ _) (fun _ _ _ _ => hcleanup _ _ _)
    fun h₁ h₂ h₃ h₄ => absurd ⟨h₁, h₂, h₃, h₄⟩ hsetup

end SetUp

/-- What one client was sent, and what was taken from it.  When its session is over, nothing
is left that the server would have taken. -/
structure Served (fuel : Nat) (config : ModbusTcpConfig) (callbacks : NmbsCallbacks σ)
    (accept : Accept) (userData : σ) (sent : List (List UInt8)) (es : List (Exchange σ))
    (userData' : σ) : Prop where
  recorded : Recorded (sessionStart config callbacks userData accept.conn) es sent userData'
  ended : ∀ err userData'', runModbusSession fuel config callbacks userData accept.conn =
    .ok (err, userData'') → userData'' = userData' ∧
      Settled (polls fuel (sessionStart config callbacks userData accept.conn))

inductive ServedAll (fuel : Nat) (config : ModbusTcpConfig) (callbacks : NmbsCallbacks σ) :
    List Accept → σ → List (List (List UInt8)) → List (List (Exchange σ)) → σ → Prop
  | nil (accepts : List Accept) (userData : σ) :
      ServedAll fuel config callbacks accepts userData [] [] userData
  | cons {accept : Accept} {accepts : List Accept} {userData userData₁ userData' : σ}
      {sent : List (List UInt8)} {sents : List (List (List UInt8))} {es : List (Exchange σ)}
      {sessions : List (List (Exchange σ))}
      (h : Served fuel config callbacks accept userData sent es userData₁)
      (rest : ServedAll fuel config callbacks accepts userData₁ sents sessions userData') :
      ServedAll fuel config callbacks (accept :: accepts) userData (sent :: sents)
        (es :: sessions) userData'

/-- The entries of a run: for each client it accepts, those of its session. -/
def entriesOfRun (fuel : Nat) (config : ModbusTcpConfig) (callbacks : NmbsCallbacks σ) :
    List Accept → σ → List (List (Exchange σ))
  | [], _ => []
  | accept :: accepts, userData =>
      if accept.result ≠ .success then []
      else entriesInSession fuel (sessionStart config callbacks userData accept.conn) ::
        match runModbusSession fuel config callbacks userData accept.conn with
        | .ok (.none, userData') =>
            if accept.closeResult ≠ .success then []
            else entriesOfRun fuel config callbacks accepts userData'
        | _ => []

section Accepted

variable {fuel : Nat} {accept : Accept} {userData : σ} (haccepted : accept.result = .success)
include haccepted

theorem entriesOfRun_of_next (accepts : List Accept) {userData' : σ}
    (hclosed : accept.closeResult = .success)
    (hrun : runModbusSession fuel config callbacks userData accept.conn = .ok (.none, userData')) :
    entriesOfRun fuel config callbacks (accept :: accepts) userData =
      entriesInSession fuel (sessionStart config callbacks userData accept.conn) ::
        entriesOfRun fuel config callbacks accepts userData' := by
  rw [entriesOfRun, if_neg (not_not.mpr haccepted), hrun]
  dsimp only
  rw [if_neg (not_not.mpr hclosed)]

theorem entriesOfRun_of_last (accepts : List Accept)
    (hlast : ∀ userData', runModbusSession fuel config callbacks userData accept.conn =
      .ok (.none, userData') → accept.closeResult ≠ .success) :
    entriesOfRun fuel config callbacks (accept :: accepts) userData =
      [entriesInSession fuel (sessionStart config callbacks userData accept.conn)] := by
  rw [entriesOfRun, if_neg (not_not.mpr haccepted)]
  split
  · next userData' hrun => rw [if_pos (hlast userData' hrun)]
  · rfl

end Accepted

theorem ServedAll.ledger {fuel : Nat} {accepts : List Accept} {userData userData' : σ}
    {sents : List (List (List UInt8))} {sessions : List (List (Exchange σ))}
    (h : ServedAll fuel config callbacks accepts userData sents sessions userData') :
    Ledger callbacks userData sessions.flatten userData' := by
  induction h with
  | nil _ userData => exact .nil userData
  | cons h _ ih => exact h.recorded.ledger.append ih

theorem served_session (config : ModbusTcpConfig) (callbacks : NmbsCallbacks σ) (fuel : Nat)
    (accept : Accept) (userData : σ) :
    ∃ userData', Served fuel config callbacks accept userData
      (sentInSession fuel (sessionStart config callbacks userData accept.conn))
      (entriesInSession fuel (sessionStart config callbacks userData accept.conn)) userData' := by
  obtain ⟨userData', hrecorded, hover⟩ :=
    session_recorded fuel (sessionStart config callbacks userData accept.conn)
  refine ⟨userData', hrecorded, fun err userData'' hrun => ?_⟩
  obtain ⟨st', hloop, rfl⟩ := loop_of_runModbusSession hrun
  exact hover err st' hloop

/-- The sessions of an accept loop. -/
theorem servedAll_entries (config : ModbusTcpConfig) (callbacks : NmbsCallbacks σ) (fuel : Nat)
    (accepts : List Accept) (userData : σ) :
    ∃ userData', ServedAll fuel config callbacks accepts userData
        (transcript fuel config callbacks accepts userData)
        (entriesOfRun fuel config callbacks accepts userData) userData' ∧
      ∀ log, Wp (fun _ => True)
        (acceptLoop (fun userData conn => runModbusSession fuel config callbacks userData conn)
          accepts) (fun _ server => server.userData = userData') ⟨userData, log⟩ := by
  induction accepts generalizing userData with
  | nil => exact ⟨userData, .nil [] userData, fun _ => rfl⟩
  | cons accept accepts ih =>
      simp only [wp_acceptLoop_cons]
      by_cases haccepted : accept.result = .success
      · obtain ⟨userData₁, hserved⟩ := served_session config callbacks fuel accept userData
        by_cases hnext : accept.closeResult = .success ∧ ∃ userData₂,
            runModbusSession fuel config callbacks userData accept.conn = .ok (.none, userData₂)
        · obtain ⟨hclosed, userData₂, hrun⟩ := hnext
          obtain ⟨rfl, _⟩ := hserved.ended .none userData₂ hrun
          obtain ⟨userData', hrest, hover⟩ := ih userData₂
          rw [transcript_of_next haccepted accepts hclosed hrun,
            entriesOfRun_of_next haccepted accepts hclosed hrun]
          refine ⟨userData', .cons hserved hrest, fun log =>
            ⟨fun hrefused => absurd haccepted hrefused, fun _ => wp_serveClient_calls ?_⟩⟩
          intro err userData₃ hrun₂
          obtain ⟨rfl, rfl⟩ := Prod.mk.inj (Except.ok.inj (hrun.symm.trans hrun₂))
          exact ⟨fun hopen => absurd hclosed hopen, fun _ herr => absurd rfl herr,
            fun _ _ => hover _⟩
        · have hlast : ∀ userData₂, runModbusSession fuel config callbacks userData accept.conn =
              .ok (.none, userData₂) → accept.closeResult ≠ .success :=
            fun userData₂ hrun hclosed => hnext ⟨hclosed, userData₂, hrun⟩
          rw [transcript_of_last haccepted accepts hlast,
            entriesOfRun_of_last haccepted accepts hlast]
          refine ⟨userData₁, .cons hserved (.nil accepts userData₁), fun log =>
            ⟨fun hrefused => absurd haccepted hrefused,
              fun _ => wp_serveClient_calls fun err userData₂ hrun => ?_⟩⟩
          have hleft := (hserved.ended err userData₂ hrun).1
          refine ⟨fun _ => hleft, fun _ _ => hleft, fun hclosed herr => ?_⟩
          rw [herr] at hrun
          exact absurd hclosed (hlast userData₂ hrun)
      · rw [transcript, entriesOfRun, if_pos haccepted, if_pos haccepted]
        refine ⟨userData, .nil _ userData, fun log =>
          ⟨fun _ => ?_, fun hsuccess => absurd hsuccess haccepted⟩⟩
        rw [wp_of_eq (cleanup_eq true accept.result _)]

/-- The entries of a run explain all that was read from the clients and sent to them, and the
user data at its end. -/
structure Accounted (fuel : Nat) (config : ModbusTcpConfig) (callbacks : NmbsCallbacks σ)
    (script : SocketScript) (userData userData' : σ) : Prop where
  served : ServedAll fuel config callbacks script.clients userData
    (transcript fuel config callbacks script.clients userData)
    (entriesOfRun fuel config callbacks script.clients userData) userData'
  left : ∀ exit server, modbusTcpRun fuel config callbacks script ⟨userData, []⟩ =
    .ok (exit, server) → server.userData = userData'

theorem exists_accounted (fuel : Nat) (config : ModbusTcpConfig) (callbacks : NmbsCallbacks σ)
    (script : SocketScript) (userData : σ) :
    ∃ userData', Accounted fuel config callbacks script userData userData' := by
  have hleft : ∀ userData' : σ, Wp (fun _ => True) (modbusTcpRun fuel config callbacks script)
      (fun _ server => server.userData = userData') ⟨userData, []⟩ → ∀ exit server,
        modbusTcpRun fuel config callbacks script ⟨userData, []⟩ = .ok (exit, server) →
          server.userData = userData' := by
    intro userData' hrun exit server h
    exact wp_ok (Q := fun _ server => server.userData = userData') hrun h
  by_cases hsetup : script.SetsUp
  · obtain ⟨userData', hserved, hover⟩ :=
      servedAll_entries config callbacks fuel script.accepts userData
    refine ⟨userData', ?_, hleft userData' (wp_modbusTcpRun_of_setsUp hsetup hover)⟩
    rwa [SocketScript.clients, if_pos hsetup]
  · refine ⟨userData, ?_,
      hleft userData (wp_modbusTcpRun_of_not_setsUp hsetup fun _ _ => rfl)⟩
    rw [SocketScript.clients, if_neg hsetup]
    exact .nil [] userData

/-- Whatever the clients do, every whole message that a poll finds is taken once, in order,
on the data the one before it has left, and all but the last message of a session are
answered; a session ends only where no whole message comes or one is not answered. -/
theorem messages_accounted (fuel : Nat) (config : ModbusTcpConfig) (callbacks : NmbsCallbacks σ)
    (script : SocketScript) (userData : σ) :
    ∃ userData', Accounted fuel config callbacks script userData userData' ∧
      Ledger callbacks userData
        (entriesOfRun fuel config callbacks script.clients userData).flatten userData' := by
  obtain ⟨userData', haccounted⟩ := exists_accounted fuel config callbacks script userData
  exact ⟨userData', haccounted, haccounted.served.ledger⟩

/-- The message repeats what identifies one that the client has sent. -/
def AnswersClient (accept : Accept) (bytes : List UInt8) : Prop :=
  ∃ msg body, frame msg.transactionId msg.unitId msg.fc body <:+: accept.conn.incoming.elements ∧
    IsAnswer msg bytes

theorem Recorded.answers {st : Nmbs σ} {es : List (Exchange σ)} {sent : List (List UInt8)}
    {arg' : σ} (h : Recorded st es sent arg') {bytes : List UInt8} (hbytes : bytes ∈ sent) :
    bytes ∈ st.conn.written ∨ ∃ e ∈ es, e.bytes <:+: st.conn.incoming.elements ∧
      IsAnswer e.request.msg bytes := by
  rw [h.sent_eq, List.mem_append, List.mem_reverse, List.mem_filterMap] at hbytes
  refine hbytes.imp_right ?_
  rintro ⟨e, he, hanswer⟩
  obtain ⟨left, htakes⟩ := h.takes
  exact ⟨e, he, htakes.infix e he, e.isAnswer hanswer⟩

theorem ServedAll.answers {fuel : Nat} {accepts : List Accept} {userData userData' : σ}
    {sents : List (List (List UInt8))} {sessions : List (List (Exchange σ))}
    (h : ServedAll fuel config callbacks accepts userData sents sessions userData') :
    ∀ accept sent, (accept, sent) ∈ accepts.zip sents → ∀ bytes ∈ sent,
      bytes ∈ accept.conn.written ∨ AnswersClient accept bytes := by
  induction h with
  | nil => simp
  | cons hserved _ ih =>
      intro accept sent hpair
      rw [List.zip_cons_cons, List.mem_cons] at hpair
      obtain hfirst | hrest := hpair
      · obtain ⟨rfl, rfl⟩ := Prod.mk.inj hfirst
        intro bytes hbytes
        refine (hserved.recorded.answers hbytes).imp_right ?_
        rintro ⟨e, _, htaken, hanswer⟩
        exact ⟨e.request.msg, e.body, htaken, hanswer⟩
      · exact ih accept sent hrest

/-- Whatever the callbacks do, every message a client gets is a frame of 9 to 260 bytes that
answers a message of this client: its data, or one of the four exceptions. -/
theorem answers_well_formed (config : ModbusTcpConfig) (callbacks : NmbsCallbacks σ)
    (script : SocketScript) (userData : σ) (fuel : Nat) (accept : Accept)
    (sent : List (List UInt8)) (hsent : (accept, sent) ∈
      script.clients.zip (transcript fuel config callbacks script.clients userData))
    (hnew : accept.conn.written = []) (bytes : List UInt8) (hbytes : bytes ∈ sent) :
    9 ≤ bytes.length ∧ bytes.length ≤ msgBufSize ∧ AnswersClient accept bytes := by
  obtain ⟨userData', haccounted⟩ := exists_accounted fuel config callbacks script userData
  obtain hold | hanswers := haccounted.served.answers accept sent hsent bytes hbytes
  · rw [hnew] at hold
    exact absurd hold List.not_mem_nil
  · obtain ⟨msg, body, hasked, hanswer⟩ := hanswers
    exact ⟨hanswer.length_le.1, hanswer.length_le.2, msg, body, hasked, hanswer⟩

theorem answers_well_formed_friendly :
    AnswersClient (clientOf [0, 1, 0] [0, 0, 6, 1, 6, 0, 0, 0, 100] 400 2500)
      [0, 1, 0, 0, 0, 6, 1, 6, 0, 0, 0, 100] := by
  have htranscript : transcript 6 modbusTcpConfigInit (appCallbacks Conversions.wrapping)
      friendlyScript.clients (appInit (mainParams : VehicleParams ℚ) 0) =
      [[[0, 1, 0, 0, 0, 6, 1, 6, 0, 0, 0, 100]], []] := by decide +kernel
  have hform := answers_well_formed modbusTcpConfigInit (appCallbacks Conversions.wrapping)
    friendlyScript (appInit (mainParams : VehicleParams ℚ) 0) 6
    (clientOf [0, 1, 0] [0, 0, 6, 1, 6, 0, 0, 0, 100] 400 2500)
    [[0, 1, 0, 0, 0, 6, 1, 6, 0, 0, 0, 100]] (by rw [htranscript]; exact List.mem_cons_self) rfl
    [0, 1, 0, 0, 0, 6, 1, 6, 0, 0, 0, 100] List.mem_cons_self
  exact hform.2.2

end Run

end DriveSim
