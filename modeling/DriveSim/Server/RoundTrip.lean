import DriveSim.Server.Calls
import DriveSim.Server.Dialogue

/-!
# From a client function to a callback and back

Both ends of a connection run the code of the library: what the one sends is what arrives at
the other, in time.  Then a client function returns what the application answers to its
request, for every client in turn.
-/

namespace DriveSim

open Lib Program Nmbs

variable {σ : Type*} {answer : σ → AppRequest → AppResponse × σ}

/-! ## A client of the library -/

def callAll (platformFlush : ClientM Unit) : List Query → ClientM (List AppResponse)
  | [] => return []
  | q :: qs => do
      let seen ← q.call platformFlush
      let rest ← callAll platformFlush qs
      return seen :: rest

def ClientFields.calls (fields : ClientFields) : List {q : Query // q.Valid} → List Call
  | [] => []
  | q :: qs => fields.call q.2 :: fields.next.calls qs

def queryMachine (answer : σ → AppRequest → AppResponse × σ) : Machine σ Query AppResponse where
  step s q := (q.seen (answer s q.request).1, (answer s q.request).2)

theorem queryMachine_run (s : σ) (queries : List Query) :
    (queryMachine answer).run s queries = Machine.run ⟨answer⟩ s (queries.map Query.request) := by
  induction queries generalizing s with
  | nil => rfl
  | cons q queries ih => exact ih _

theorem ClientFields.calls_requests (fields : ClientFields)
    (queries : List {q : Query // q.Valid}) :
    (fields.calls queries).map (·.query.request) =
      (queries.map Subtype.val).map Query.request := by
  induction queries generalizing fields with
  | nil => rfl
  | cons q queries ih => exact congrArg (q.1.request :: ·) (ih fields.next)

theorem Serves.expects {callbacks : NmbsCallbacks σ} (h : Serves callbacks answer) (s : σ)
    (q : Query) : q.Expects (answer s q.request).1 := by
  cases q with
  | readDiscreteInputs address quantity =>
      obtain ⟨read, _, hanswer⟩ := h.readDiscreteInputs
      rw [Query.request, hanswer _ _ _ 0]
      exact trivial
  | readHoldingRegisters address quantity =>
      obtain ⟨read, _, hanswer⟩ := h.readHoldingRegisters
      rw [Query.request, hanswer _ _ _ 0]
      exact trivial
  | readInputRegisters address quantity =>
      obtain ⟨read, _, hanswer⟩ := h.readInputRegisters
      rw [Query.request, hanswer _ _ _ 0]
      exact trivial
  | writeSingleRegister address value =>
      obtain ⟨write, _, hanswer⟩ := h.writeSingleRegister
      rw [Query.request, hanswer _ _ 0]
      exact trivial
  | writeMultipleRegisters address values =>
      obtain ⟨write, _, hanswer⟩ := h.writeMultipleRegisters
      rw [Query.request, hanswer _ _ _ 0]
      exact trivial

/-- The client sends the messages of its calls, and is told what the application answers. -/
theorem wp_callAll {callbacks : NmbsCallbacks σ} (hserves : Serves callbacks answer)
    {flush : ClientM Unit} (hflush : FlushesQueued flush) (s : σ)
    (queries : List {q : Query // q.Valid}) {st : Nmbs ClientFields}
    (hcalling : Calling st ((wireMachine answer).outputs s (st.arg.calls queries))) :
    Wp (fun _ => False) (callAll flush (queries.map Subtype.val)) (fun seen st' =>
      seen = (queryMachine answer).outputs s (queries.map Subtype.val) ∧
        st'.conn.written =
          ((st.arg.calls queries).map (·.message.bytes)).reverse ++ st.conn.written) st := by
  induction queries generalizing s st with
  | nil => exact ⟨rfl, rfl⟩
  | cons q queries ih =>
      rw [List.map_cons, callAll, wp_bind]
      apply wp_mono (wp_call hflush q.2 (hserves.expects s q.1) hcalling)
      rintro seen st₁ ⟨rfl, hcalled⟩
      have hrest := hcalled.calling
      rw [← hcalled.arg_eq] at hrest
      rw [wp_bind]
      apply wp_mono (ih _ hrest)
      rintro rest st₂ ⟨rfl, hwritten⟩
      refine ⟨rfl, ?_⟩
      rw [hwritten, hcalled.written_eq, hcalled.arg_eq, ClientFields.calls, List.map_cons,
        List.reverse_cons, List.append_assoc]
      rfl

/-! ## One client after another -/

theorem answersTo_getD {ι ω : Type*} (m : Machine σ ι ω) (s : σ) (dialogues : List (List ι))
    (i : Nat) : (answersTo m s dialogues).getD i [] =
      m.outputs (m.run s (dialogues.take i).flatten) (dialogues.getD i []) := by
  induction dialogues generalizing s i with
  | nil => rfl
  | cons calls dialogues ih =>
      cases i with
      | zero => rfl
      | succ i =>
          rw [answersTo, List.getD_cons_succ, ih, List.take_succ_cons, List.flatten_cons,
            Machine.run_append, List.getD_cons_succ]

/-- A client, as the library knows it, and what it asks for. -/
structure LibraryClient where
  fields : ClientFields
  queries : List {q : Query // q.Valid}

namespace LibraryClient

def calls (client : LibraryClient) : List Call := client.fields.calls client.queries

def plainQueries (client : LibraryClient) : List Query := client.queries.map Subtype.val

theorem requests_flatten (clients : List LibraryClient) :
    (clients.map calls).flatten.map (·.query.request) =
      (clients.map plainQueries).flatten.map Query.request := by
  induction clients with
  | nil => rfl
  | cons client clients ih =>
      rw [List.map_cons, List.map_cons, List.flatten_cons, List.flatten_cons, List.map_append,
        List.map_append, ih, calls, ClientFields.calls_requests]
      rfl

end LibraryClient

section Round

variable {callbacks : NmbsCallbacks σ} (hserves : Serves callbacks answer)
  {flush : ClientM Unit} (hflush : FlushesQueued flush)
include hserves hflush

theorem callAll_of_calling (s : σ) (clients : List LibraryClient) {i : Nat}
    {client : LibraryClient} (hclient : clients[i]? = some client) {st : Nmbs ClientFields}
    (hfields : st.arg = client.fields)
    (hcalling : Calling st
      ((answersTo (wireMachine answer) s (clients.map LibraryClient.calls)).getD i [])) :
    ∃ st', callAll flush client.plainQueries st =
        .ok ((queryMachine answer).outputs ((queryMachine answer).run s
          ((clients.take i).map LibraryClient.plainQueries).flatten) client.plainQueries, st') ∧
      st'.conn.written = (client.calls.map (·.message.bytes)).reverse ++ st.conn.written := by
  have hcalls : (clients.map LibraryClient.calls).getD i [] = client.calls := by
    rw [List.getD_eq_getElem?_getD, List.getElem?_map, hclient]
    rfl
  have hstate : (wireMachine answer).run s ((clients.map LibraryClient.calls).take i).flatten =
      (queryMachine answer).run s ((clients.take i).map LibraryClient.plainQueries).flatten := by
    rw [wireMachine_run, queryMachine_run, ← List.map_take, LibraryClient.requests_flatten]
  rw [answersTo_getD, hcalls, hstate, LibraryClient.calls, ← hfields] at hcalling
  obtain ⟨seen, st', hrun, rfl, hwritten⟩ := wp_total (wp_callAll hserves hflush _ _ hcalling)
  refine ⟨st', hrun, ?_⟩
  rw [hwritten, hfields]
  rfl

end Round

/-! ## The running program -/

section Live

variable {K : Type*} [Field K] [LinearOrder K] [FloorRing K] [IsStrictOrderedRing K]
  (conv : Conversions K) {p : VehicleParams K}

/-- Clients of the library that call the running program are told what the two registers
answer: client `i` what they answer after all calls of the clients before it.  Each of them
sends its messages as the server has heard them. -/
theorem live_tells_clients (hnonneg : 0 ≤ p.motorMaxTorqueNm)
    (hlt : p.motorMaxTorqueNm < 32768) (config : ModbusTcpConfig)
    (hconfig : 0 ≤ config.byteTimeoutMs) (script : SocketScript) (clients : List LibraryClient)
    (hmakes : List.Forall₂ (Makes config) script.accepts (clients.map LibraryClient.calls))
    (fuel : Nat) (hfuel : ∀ accept ∈ script.accepts, accept.conn.weight < fuel) (torqueNm : K)
    (steps : Nat → Nat) {flush : ClientM Unit} (hflush : FlushesQueued flush) {i : Nat}
    {client : LibraryClient} (hclient : clients[i]? = some client) {st : Nmbs ClientFields}
    (hfields : st.arg = client.fields)
    (hcalling : Calling st ((transcript fuel config (liveCallbacks conv) script.accepts
      ⟨appInit p torqueNm, steps⟩).getD i [])) :
    let initial : Registers K :=
      ⟨clamp torqueNm (-p.motorMaxTorqueNm) p.motorMaxTorqueNm, false⟩
    let before := ((clients.take i).map LibraryClient.plainQueries).flatten
    let registers := queryMachine (Registers.answer p.motorMaxTorqueNm (inputTable conv p))
    ∃ st', callAll flush client.plainQueries st =
        .ok (registers.outputs (registers.run initial before) client.plainQueries, st') ∧
      st'.conn.written = (client.calls.map (·.message.bytes)).reverse ++ st.conn.written := by
  intro initial before registers
  rw [live_transcript conv hnonneg hlt config hconfig script hmakes fuel hfuel torqueNm steps]
    at hcalling
  exact callAll_of_calling (serves_registers p.motorMaxTorqueNm (inputTable conv p)) hflush
    initial clients hclient hfields hcalling

/-- What a client's platform does that reads without waiting. -/
def dropQueued : ClientM Unit :=
  Program.modify fun st => st.setConn { st.conn with
    incoming := ⟨st.conn.incoming.arrivals.dropWhile (·.1 = 0), st.conn.incoming.ending⟩ }

theorem flushesQueued_dropQueued : FlushesQueued dropQueued := by
  intro st hquiet
  have hkept : st.conn.incoming.arrivals.dropWhile (·.1 = 0) = st.conn.incoming.arrivals := by
    cases harrivals : st.conn.incoming.arrivals with
    | nil => rfl
    | cons arrival arrivals =>
        rw [List.dropWhile_cons_of_neg]
        intro hnow
        have htime : st.conn.incoming.time 1 = arrival.1 := by
          rw [TimedStream.time, harrivals]
          exact Nat.add_zero _
        refine hquiet ⟨harrivals ▸ Nat.succ_pos _, ?_⟩
        rw [htime, of_decide_eq_true hnow]
        exact (within_some 0 0).mpr le_rfl
  refine ⟨st.msg.buf, ?_⟩
  show Except.ok ((), st.setConn { st.conn with
    incoming := ⟨st.conn.incoming.arrivals.dropWhile (·.1 = 0), st.conn.incoming.ending⟩ }) = _
  rw [hkept]
  rfl

theorem replying_sentAfter {first limit : Option Nat} {pause : Nat} (hpause : 0 < pause)
    (hfirst : Within first pause) (answers : List (List UInt8)) (hanswers : [] ∉ answers) :
    Replying first limit (answers.flatMap (sentAfter pause)) answers := by
  induction answers with
  | nil => exact .nil _
  | cons answer answers ih =>
      rw [List.mem_cons, not_or] at hanswers
      obtain ⟨b, bytes, rfl⟩ := List.exists_cons_of_ne_nil (Ne.symm hanswers.1)
      have hzero : ∀ bytes : List UInt8, Within limit ((bytes.map (0, ·)).map Prod.fst).sum := by
        intro bytes b _
        rw [time_of_map_zero]
        exact Nat.zero_le b
      refine .cons hpause hfirst ?_ ?_ ?_ (ih hanswers.2)
      · rw [List.map_map]
        exact congrArg (b :: ·) (List.map_id bytes)
      · rw [← List.map_take]
        exact hzero _
      · rw [← List.map_drop]
        exact hzero _

def twoClients : List LibraryClient :=
  twoCallers.map fun calls => ⟨⟨1, 0xFFFF⟩, calls.map fun c => ⟨c.2.query, c.2.valid⟩⟩

def twoClientsScript : SocketScript :=
  scriptOf (twoClients.map fun client => callerOf (client.calls.map (40, ·)) 700)

def secondClient (answers : List (List UInt8)) : Nmbs ClientFields :=
  { Nmbs.clientCreate
      { incoming := ⟨answers.flatMap (sentAfter 5), .stillOpen⟩
        rcvTimeo := 0
        clock := 0
        sends := fun _ => some ⟨.success, 0⟩
        written := [] } with
    byteTimeoutMs := 100
    readTimeoutMs := 1000
    arg := ⟨1, 0xFFFF⟩ }

def AppResponse.first : AppResponse → NmbsError × Nat
  | .bits err out => (err, (out 0).toNat)
  | .registers err out => (err, (out 0).toNat)
  | .written err => (err, 0)

theorem live_tells_clients_main :
    ∃ heard seen st',
      (transcript 9000 modbusTcpConfigInit (liveCallbacks Conversions.wrapping)
        twoClientsScript.accepts ⟨appInit (mainParams : VehicleParams ℚ) 0, fun i => i⟩).getD 1 [] =
        heard ∧
      callAll dropQueued [.writeMultipleRegisters 0 [221], .readHoldingRegisters 0 1,
        .readDiscreteInputs 0 1] (secondClient heard) = .ok (seen, st') ∧
      heard = [[0, 1, 0, 0, 0, 3, 1, 144, 3], [0, 2, 0, 0, 0, 5, 1, 3, 2, 0, 100],
        [0, 3, 0, 0, 0, 4, 1, 2, 1, 1]] ∧
      seen.map AppResponse.first = [(.illegalDataValue, 0), (.none, 100), (.none, 1)] := by
  have hnonneg : 0 ≤ (mainParams : VehicleParams ℚ).motorMaxTorqueNm := by decide +kernel
  have hlt : (mainParams : VehicleParams ℚ).motorMaxTorqueNm < 32768 := by decide +kernel
  have hconfig : 0 ≤ modbusTcpConfigInit.byteTimeoutMs := by decide
  have hmakes : List.Forall₂ (Makes modbusTcpConfigInit) twoClientsScript.accepts
      (twoClients.map LibraryClient.calls) :=
    .cons (makes_callerOf _ _ 700) (.cons (makes_callerOf _ _ 700) .nil)
  have hfuel : ∀ accept ∈ twoClientsScript.accepts, accept.conn.weight < 9000 := by
    decide +kernel
  obtain ⟨heard, heq⟩ : ∃ heard, (transcript 9000 modbusTcpConfigInit
      (liveCallbacks Conversions.wrapping) twoClientsScript.accepts
      ⟨appInit (mainParams : VehicleParams ℚ) 0, fun i => i⟩).getD 1 [] = heard := ⟨_, rfl⟩
  have hheard : heard = [[0, 1, 0, 0, 0, 3, 1, 144, 3], [0, 2, 0, 0, 0, 5, 1, 3, 2, 0, 100],
      [0, 3, 0, 0, 0, 4, 1, 2, 1, 1]] := by
    rw [← heq, live_transcript Conversions.wrapping hnonneg hlt modbusTcpConfigInit hconfig
      twoClientsScript hmakes 9000 hfuel 0 (fun i => i)]
    decide +kernel
  have hreplying : Replying (some 1000) (some 100) (heard.flatMap (sentAfter 5)) heard :=
    replying_sentAfter (by decide) (by decide) heard (by rw [hheard]; decide)
  have hcalling : Calling (secondClient heard) ((transcript 9000 modbusTcpConfigInit
      (liveCallbacks Conversions.wrapping) twoClientsScript.accepts
      ⟨appInit (mainParams : VehicleParams ℚ) 0, fun i => i⟩).getD 1 []) := by
    rw [heq]
    exact ⟨(by decide : (0 : Int) ≤ 1000), (by decide : (0 : Int) ≤ 100), fun _ => rfl, hreplying⟩
  obtain ⟨st', hrun, _⟩ := live_tells_clients Conversions.wrapping hnonneg hlt
    modbusTcpConfigInit hconfig twoClientsScript twoClients hmakes 9000 hfuel 0 (fun i => i)
    flushesQueued_dropQueued (show twoClients[1]? = some _ from rfl)
    (show (secondClient heard).arg = _ from rfl) hcalling
  exact ⟨heard, _, st', heq, hrun, hheard, by decide +kernel⟩

end Live

end DriveSim
