import DriveSim.Server.Commands
import DriveSim.Server.Queries

/-!
# Dialogues

A client that makes its calls in whole messages, with any pauses between them, gets the
answer of the application to each of its calls, whoever was connected before.
-/

namespace DriveSim

open Lib Program Nmbs

variable {σ : Type*} {answer : σ → AppRequest → AppResponse × σ}

/-! ## One session -/

/-- The calls a client still makes, before it hangs up. -/
structure Conversing (answer : σ → AppRequest → AppResponse × σ) (st : Nmbs σ)
    (calls : List Call) : Prop where
  serves : Serves st.callbacks answer
  byteTimeout_nonneg : 0 ≤ st.byteTimeoutMs
  prompt : Prompt (Conn.limitOf st.byteTimeoutMs.toNat) st.conn.incoming.arrivals
    (calls.map Call.message)
  ends : st.conn.incoming.Ends
  sends : st.conn.TakesAnswers

section Session

variable {st st' : Nmbs σ} {calls : List Call} {c : Call}

theorem Conversing.letsGo (h : Conversing answer st calls) : st.conn.LetsGo :=
  h.sends.letsGo h.ends

theorem Conversing.served (h : Conversing answer st (c :: calls))
    (hfirst : st.conn.incoming.ArrivesWithin st.readLimit 1) :
    Wp (fun _ => False) nmbsServerPoll (fun err st' => err = .none ∧
      Conversing answer st' calls ∧ st'.conn.weight < st.conn.weight ∧
      st'.arg = ((wireMachine answer).step st.arg c).2 ∧
      st'.conn.written = ((wireMachine answer).step st.arg c).1 :: st.conn.written) st := by
  obtain ⟨piece, rest, hall, hsent, hrest⟩ := h.prompt.of_cons
  have hpiece : c.message.SentIn st.byteLimit piece := by
    rwa [byteLimit, Conn.readLimit_of_nonneg _ h.byteTimeout_nonneg]
  obtain ⟨harrives, hlength⟩ := hpiece.arrives hall hfirst
  have helements : st.conn.incoming.elements = c.message.bytes ++ rest.map Prod.snd := by
    rw [TimedStream.elements, hall, List.map_append, hsent.bytes_eq]
  have hbuffer : c.InBuffer st.received := Call.inBuffer helements
  have hreply := hbuffer.reply_eq h.serves
  have hanswer := hbuffer.answer_eq (answer st.received.arg c.query.request)
  rw [← hreply] at hanswer
  have hfc := c.query.fc_supported
  rw [← hbuffer.fc_eq] at hfc
  apply wp_mono (wp_nmbsServerPoll_arrives harrives hfc.1 (fun h21 => absurd h21 hfc.2) hanswer
    h.sends.sends)
  rintro err st' ⟨rfl, hsent'⟩
  obtain ⟨o, ho, hconn⟩ := hsent'.conn_eq
  have hincoming : st'.conn.incoming =
      (st.conn.incoming.drop (8 + st.bodyLength)).elapse o.elapsed := by
    rw [hconn, ← gotMessage_incoming]
    rfl
  have harrivals : TimedStream.Sooner st'.conn.incoming.arrivals rest := by
    have htaken : 8 + st.bodyLength = piece.length := by
      rw [hlength, ← List.length_map (f := Prod.snd), hsent.bytes_eq, Message.length_bytes]
    have hrest' : (st.conn.incoming.drop (8 + st.bodyLength)).arrivals = rest := by
      rw [TimedStream.drop, hall, htaken, List.drop_left]
    rw [hincoming, ← hrest']
    exact TimedStream.sooner_elapseArrivals _ _
  refine ⟨rfl, ⟨?_, ?_, ?_, ?_, ?_⟩, ?_, ?_, ?_⟩
  · rw [hsent'.callbacks_eq]
    exact h.serves
  · rw [hsent'.byteTimeout_eq]
    exact h.byteTimeout_nonneg
  · rw [hsent'.byteTimeout_eq]
    exact hrest.sooner harrivals
  · have hends : (st.conn.incoming.drop (8 + st.bodyLength)).Ends := h.ends
    rw [hincoming]
    exact TimedStream.ends_elapse hends _
  · rw [hconn]
    exact fun i => h.sends (i + 1)
  · have hprogress : st.conn.Progress st'.conn := by
      rw [hconn]
      exact harrives.progress.later (later_sent _ _ _)
    exact (hprogress h.letsGo).2
  · rw [hsent'.arg_eq, hreply]
    rfl
  · rw [hconn, written_sent ho]
    exact congrArg (· ++ st.conn.written) (if_pos h.sends.sends)

theorem Conversing.waits (h : Conversing answer st calls) {gap : Nat} {x : UInt8}
    {arrivals : List (Nat × UInt8)} {ending : Ending}
    (hincoming : st.conn.incoming = ⟨(gap, x) :: arrivals, ending⟩)
    (hlate : ¬ Within st.readLimit gap) :
    Wp (fun _ => False) nmbsServerPoll (fun err st' => err = .none ∧
      Conversing answer st' calls ∧ st'.conn.weight < st.conn.weight ∧ st'.arg = st.arg ∧
      st'.conn.written = st.conn.written) st := by
  apply wp_mono (wp_nmbsServerPoll_late hincoming hlate)
  rintro err st' ⟨rfl, hquiet, b, hlt, hpos, hincoming'⟩
  have hprompt := h.prompt
  have hends := h.ends
  rw [hincoming] at hprompt hends
  refine ⟨rfl, ⟨?_, ?_, ?_, ?_, ?_⟩, ?_, hquiet.arg_eq, hquiet.written_eq⟩
  · rw [hquiet.callbacks_eq]
    exact h.serves
  · rw [hquiet.byteTimeout_eq]
    exact h.byteTimeout_nonneg
  · rw [hquiet.byteTimeout_eq, hincoming']
    exact hprompt.elapse _
  · rw [hincoming']
    exact hends
  · rw [Conn.TakesAnswers, hquiet.sends_eq]
    exact h.sends
  · rw [Conn.weight, Conn.weight, hincoming, hincoming', TimedStream.weight_cons,
      TimedStream.weight_cons]
    omega

theorem wp_sessionRound_goes_on {H : Halt → Prop} {P : Nmbs σ → Prop}
    {Q : Option NmbsError → Nmbs σ → Prop}
    (h : Wp H nmbsServerPoll (fun err st' => err = .none ∧ P st') st)
    (hQ : ∀ st', P st' → Q none st') : Wp H sessionRound Q st := by
  rw [sessionRound, wp_bind]
  apply wp_mono h
  rintro err st' ⟨rfl, hP⟩
  exact hQ st' hP

/-- The session serves all calls and is then left by the client.  By induction on the bytes
and milliseconds to come. -/
theorem Conversing.session (h : Conversing answer st calls) {fuel : Nat}
    (hfuel : st.conn.weight < fuel) :
    Wp (fun _ => False) (loop sessionRound fuel) (fun err st' => err = .none ∧
      st'.arg = (wireMachine answer).run st.arg calls ∧
      st'.conn.written = ((wireMachine answer).outputs st.arg calls).reverse ++
        st.conn.written) st := by
  induction fuel generalizing st calls with
  | zero => exact absurd hfuel (Nat.not_lt_zero _)
  | succ fuel ih =>
      rw [wp_loop_succ]
      cases calls with
      | nil =>
          rw [sessionRound, wp_bind]
          apply wp_mono (wp_nmbsServerPoll_over h.prompt.of_nil h.letsGo)
          rintro err st' ⟨hquiet, rfl | ⟨rfl, harrivals, hprogress⟩⟩
          · exact ⟨rfl, hquiet.arg_eq, hquiet.written_eq⟩
          · obtain ⟨hgo, hweight⟩ := hprogress h.letsGo
            rw [← hquiet.arg_eq, ← hquiet.written_eq]
            refine @ih st' [] ⟨?_, ?_, ?_, hgo.ends, ?_⟩ (by omega)
            · rw [hquiet.callbacks_eq]
              exact h.serves
            · rw [hquiet.byteTimeout_eq]
              exact h.byteTimeout_nonneg
            · rw [harrivals]
              exact .nil
            · rw [Conn.TakesAnswers, hquiet.sends_eq]
              exact h.sends
      | cons c calls =>
          by_cases hfirst : st.conn.incoming.ArrivesWithin st.readLimit 1
          · apply wp_sessionRound_goes_on (h.served hfirst)
            rintro st' ⟨hconversing, hweight, harg, hwritten⟩
            apply wp_mono (ih hconversing (by omega))
            rintro err st'' ⟨herr, harg', hwritten'⟩
            refine ⟨herr, ?_, ?_⟩
            · rw [harg', harg, Machine.run_cons]
            · rw [hwritten', hwritten, harg, Machine.outputs_cons, List.reverse_cons,
                List.append_assoc]
              rfl
          · obtain ⟨gap, x, arrivals, ending, hincoming⟩ : ∃ gap x arrivals ending,
                st.conn.incoming = ⟨(gap, x) :: arrivals, ending⟩ := by
              obtain ⟨piece, rest, hall, hsent, _⟩ := h.prompt.of_cons
              obtain ⟨⟨gap, x⟩, piece, rfl⟩ := List.exists_cons_of_ne_nil hsent.ne_nil
              refine ⟨gap, x, piece ++ rest, st.conn.incoming.ending, ?_⟩
              rw [← List.cons_append, ← hall]
            have hlate : ¬ Within st.readLimit gap := by
              rw [hincoming] at hfirst
              intro hgap
              exact hfirst ⟨Nat.succ_pos _, by simpa using hgap⟩
            apply wp_sessionRound_goes_on (h.waits hincoming hlate)
            rintro st' ⟨hconversing, hweight, harg, hwritten⟩
            rw [← harg, ← hwritten]
            exact ih hconversing (by omega)

end Session

/-! ## One client after another -/

def answersTo {ι ω : Type*} (m : Machine σ ι ω) : σ → List (List ι) → List (List ω)
  | _, [] => []
  | s, calls :: dialogues => m.outputs s calls :: answersTo m (m.run s calls) dialogues

/-- A client that makes these calls, takes the answers and hangs up. -/
structure Makes (config : ModbusTcpConfig) (accept : Accept) (calls : List Call) : Prop where
  accepted : accept.result = .success
  closed : accept.closeResult = .success
  prompt : Prompt (Conn.limitOf config.byteTimeoutMs.toNat) accept.conn.incoming.arrivals
    (calls.map Call.message)
  ends : accept.conn.incoming.Ends
  sends : accept.conn.TakesAnswers
  fresh : accept.conn.written = []

/-- A client that makes each call at once after a pause, and hangs up after another one. -/
def callerOf (calls : List (Nat × Call)) (after : Nat) : Accept where
  result := .success
  conn :=
    { incoming := ⟨calls.flatMap fun c => sentAfter c.1 c.2.message.bytes, .ended true after⟩
      rcvTimeo := 0
      clock := 0
      sends := fun _ => some ⟨.success, 0⟩
      written := [] }
  closeResult := .success

theorem makes_callerOf (config : ModbusTcpConfig) (calls : List (Nat × Call)) (after : Nat) :
    Makes config (callerOf calls after) (calls.map Prod.snd) := by
  refine ⟨rfl, rfl, ?_, Ending.noConfusion, fun _ => ⟨0, rfl⟩, rfl⟩
  show Prompt _ (calls.flatMap fun c => sentAfter c.1 c.2.message.bytes) _
  induction calls with
  | nil => exact .nil
  | cons c calls ih => exact .cons (c.2.message.sentIn_sentAfter _ c.1) ih

section Run

variable {config : ModbusTcpConfig} {callbacks : NmbsCallbacks σ} {fuel : Nat}
  (hserves : Serves callbacks answer) (hconfig : 0 ≤ config.byteTimeoutMs)
include hserves hconfig

theorem Makes.session {accept : Accept} {calls : List Call} (h : Makes config accept calls)
    (hfuel : accept.conn.weight < fuel) (userData : σ) :
    runModbusSession fuel config callbacks userData accept.conn =
        .ok (.none, (wireMachine answer).run userData calls) ∧
      sentInSession fuel (sessionStart config callbacks userData accept.conn) =
        (wireMachine answer).outputs userData calls := by
  have hconversing : Conversing answer (sessionStart config callbacks userData accept.conn) calls :=
    ⟨hserves, hconfig, h.prompt, h.ends, h.sends⟩
  obtain ⟨err, st, hloop, rfl, harg, hwritten⟩ := wp_total (hconversing.session hfuel)
  constructor
  · rw [runModbusSession_of_loop hloop, harg]
    rfl
  · have hfresh : (sessionStart config callbacks userData accept.conn).conn.written = [] := h.fresh
    rw [sentInSession_of_loop hloop, hwritten, hfresh, List.append_nil, List.reverse_reverse]
    rfl

variable {accepts : List Accept} {dialogues : List (List Call)}
  (hmakes : List.Forall₂ (Makes config) accepts dialogues)
  (hfuel : ∀ accept ∈ accepts, accept.conn.weight < fuel)
include hmakes hfuel

theorem transcript_of_makes (userData : σ) :
    transcript fuel config callbacks accepts userData =
      answersTo (wireMachine answer) userData dialogues := by
  induction hmakes generalizing userData with
  | nil => rfl
  | @cons accept calls accepts dialogues h _ ih =>
      obtain ⟨hrun, hsent⟩ := h.session hserves hconfig (hfuel _ List.mem_cons_self) userData
      rw [transcript_of_next h.accepted accepts h.closed hrun, hsent,
        ih fun a ha => hfuel a (List.mem_cons_of_mem _ ha), answersTo]

theorem wp_acceptLoop_of_makes {H : Halt → Prop} (userData : σ) (log : List SocketCall) :
    Wp H (acceptLoop (fun userData conn => runModbusSession fuel config callbacks userData conn)
      accepts) (fun exit server => exit = .accepting ∧
        server.userData = (wireMachine answer).run userData dialogues.flatten)
      ⟨userData, log⟩ := by
  induction hmakes generalizing userData log with
  | nil => exact ⟨rfl, rfl⟩
  | @cons accept calls accepts dialogues h _ ih =>
      obtain ⟨hrun, _⟩ := h.session hserves hconfig (hfuel _ List.mem_cons_self) userData
      rw [wp_acceptLoop_cons]
      refine ⟨fun hrefused => absurd h.accepted hrefused, fun _ => ?_⟩
      have hserved : serveClient (fun userData conn => runModbusSession fuel config callbacks
          userData conn) accept.conn ⟨userData, log ++ [.accept]⟩ =
          .ok (.none, ⟨(wireMachine answer).run userData calls, log ++ [.accept]⟩) := by
        simp only [serveClient, hrun]
      rw [wp_of_eq hserved]
      refine ⟨fun hopen => absurd h.closed hopen, fun _ herr => absurd rfl herr, fun _ _ => ?_⟩
      rw [List.flatten_cons, Machine.run_append]
      exact ih (fun a ha => hfuel a (List.mem_cons_of_mem _ ha)) _ _

end Run

/-! ## The running program -/

section Live

theorem wireMachine_run (s : σ) (calls : List Call) :
    (wireMachine answer).run s calls = Machine.run ⟨answer⟩ s (calls.map (·.query.request)) := by
  induction calls generalizing s with
  | nil => rfl
  | cons c calls ih => exact ih _

variable {K : Type*} [Field K] [LinearOrder K] [FloorRing K] [IsStrictOrderedRing K]
  (conv : Conversions K) {p : VehicleParams K}

section Calls

variable (hnonneg : 0 ≤ p.motorMaxTorqueNm) (hlt : p.motorMaxTorqueNm < 32768)
  (config : ModbusTcpConfig) (hconfig : 0 ≤ config.byteTimeoutMs) (script : SocketScript)
  (hsetup : script.SetsUp) {dialogues : List (List Call)}
  (hmakes : List.Forall₂ (Makes config) script.accepts dialogues) (fuel : Nat)
  (hfuel : ∀ accept ∈ script.accepts, accept.conn.weight < fuel) (torqueNm : K)
  (steps : Nat → Nat)
include hnonneg hlt hconfig hsetup hmakes hfuel

omit hsetup in
theorem live_transcript :
    transcript fuel config (liveCallbacks conv) script.accepts ⟨appInit p torqueNm, steps⟩ =
      answersTo (wireMachine (Registers.answer p.motorMaxTorqueNm (inputTable conv p)))
        ⟨clamp torqueNm (-p.motorMaxTorqueNm) p.motorMaxTorqueNm, false⟩ dialogues := by
  rw [transcript_eq config (agree_registers conv hnonneg hlt) (Holds.initial hnonneg torqueNm)
      script.accepts fuel,
    transcript_of_makes (serves_registers p.motorMaxTorqueNm (inputTable conv p)) hconfig hmakes
      hfuel]

/-- When all calls have been made, the server waits, and the drive holds what they commanded. -/
theorem live_holds_commands :
    ∃ server, modbusTcpRun fuel config (liveCallbacks conv) script
        ⟨⟨appInit p torqueNm, steps⟩, []⟩ = .ok (.accepting, server) ∧
      Holds p server.userData.data ⟨torqueAfter p.motorMaxTorqueNm
          (clamp torqueNm (-p.motorMaxTorqueNm) p.motorMaxTorqueNm)
          (dialogues.flatten.map (·.query.request)),
        failureAfter p.motorMaxTorqueNm (dialogues.flatten.map (·.query.request))⟩ := by
  set initial := clamp torqueNm (-p.motorMaxTorqueNm) p.motorMaxTorqueNm
  have hserves := serves_registers p.motorMaxTorqueNm (inputTable conv p)
  have hrun : Wp (fun _ => False) (modbusTcpRun fuel config
      (Registers.callbacks p.motorMaxTorqueNm (inputTable conv p)) script)
      (fun exit server => exit = .accepting ∧ server.userData =
        (wireMachine (Registers.answer p.motorMaxTorqueNm (inputTable conv p))).run
          ⟨initial, false⟩ dialogues.flatten) ⟨⟨initial, false⟩, []⟩ :=
    wp_modbusTcpRun_of_setsUp hsetup (wp_acceptLoop_of_makes hserves hconfig hmakes hfuel _)
  obtain ⟨exit, server, hregisters, rfl, huserData⟩ := wp_total hrun
  obtain ⟨server', hlive, hsame⟩ :=
    (inStep_modbusTcpRun config (agree_registers conv hnonneg hlt) script fuel).returned_left
      (s := ⟨⟨appInit p torqueNm, steps⟩, []⟩) ⟨rfl, Holds.initial hnonneg torqueNm⟩ hregisters
  have hholds := hsame.userData
  have hafter := Registers.run_eq_after p.motorMaxTorqueNm (inputTable conv p) initial
    (dialogues.flatten.map (·.query.request))
  rw [Registers.machine] at hafter
  rw [huserData, wireMachine_run, hafter] at hholds
  exact ⟨server', hlive, hholds⟩

/-- Clients that make their calls in whole messages, with any pauses in between, get the
answers of the two registers, while the simulation thread runs as it likes.  Then the
server waits for the next client, and the drive holds the last accepted command. -/
theorem live_answers_calls :
    let initial : Registers K :=
      ⟨clamp torqueNm (-p.motorMaxTorqueNm) p.motorMaxTorqueNm, false⟩
    let requests := dialogues.flatten.map (·.query.request)
    transcript fuel config (liveCallbacks conv) script.accepts ⟨appInit p torqueNm, steps⟩ =
        answersTo (wireMachine (Registers.answer p.motorMaxTorqueNm (inputTable conv p))) initial
          dialogues ∧
      ∃ server, modbusTcpRun fuel config (liveCallbacks conv) script
          ⟨⟨appInit p torqueNm, steps⟩, []⟩ = .ok (.accepting, server) ∧
        Holds p server.userData.data ⟨torqueAfter p.motorMaxTorqueNm initial.torque requests,
          failureAfter p.motorMaxTorqueNm requests⟩ := by
  intro initial requests
  exact ⟨live_transcript conv hnonneg hlt config hconfig script hmakes fuel hfuel torqueNm steps,
    live_holds_commands conv hnonneg hlt config hconfig script hsetup hmakes fuel hfuel torqueNm
      steps⟩

end Calls

/-- Two clients.  The second one commands more than the motor can give, and asks for the
torque and the failure flag. -/
def twoCallers : List (List (Nat × Call)) :=
  [[(2500, ⟨1, 1, .writeSingleRegister 0 100, trivial⟩)],
    [(40, ⟨2, 1, .writeMultipleRegisters 0 [221], by decide⟩),
      (0, ⟨3, 1, .readHoldingRegisters 0 1, by decide⟩),
      (1300, ⟨4, 1, .readDiscreteInputs 0 1, by decide⟩)]]

theorem live_answers_calls_main :
    transcript 9000 modbusTcpConfigInit (liveCallbacks Conversions.wrapping)
      (twoCallers.map (callerOf · 700)) ⟨appInit (mainParams : VehicleParams ℚ) 0, fun i => i⟩ =
      [[[0, 1, 0, 0, 0, 6, 1, 6, 0, 0, 0, 100]],
        [[0, 2, 0, 0, 0, 3, 1, 144, 3], [0, 3, 0, 0, 0, 5, 1, 3, 2, 0, 100],
          [0, 4, 0, 0, 0, 4, 1, 2, 1, 1]]] := by
  have hmakes : List.Forall₂ (Makes modbusTcpConfigInit) (twoCallers.map (callerOf · 700))
      (twoCallers.map (List.map Prod.snd)) :=
    .cons (makes_callerOf _ _ 700) (.cons (makes_callerOf _ _ 700) .nil)
  have hlive := live_answers_calls Conversions.wrapping (p := (mainParams : VehicleParams ℚ))
    (by decide +kernel) (by decide +kernel) modbusTcpConfigInit (by decide)
    (scriptOf (twoCallers.map (callerOf · 700))) ⟨rfl, rfl, rfl, rfl⟩ hmakes 9000
    (by decide +kernel) 0 (fun i => i)
  exact hlive.1.trans (by decide +kernel)

end Live

end DriveSim
