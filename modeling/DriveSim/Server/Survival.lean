import DriveSim.App.Callbacks
import DriveSim.Nmbs.Poll
import DriveSim.Server.Model
import Mathlib.Data.Rat.Floor

/-!
# The server outlives its clients

As long as every poll starts in a tolerable state, every session ends in `NONE`, and the
accept loop goes on to the next client until one of its own calls fails.
-/

namespace DriveSim

open Lib Program Nmbs

variable {σ : Type*}

/-- The states in which a session polls, from the first one on. -/
inductive Polled : Nmbs σ → Nmbs σ → Prop
  | here (st : Nmbs σ) : Polled st st
  | next {st st' st'' : Nmbs σ} (h : nmbsServerPoll st = .ok (.none, st'))
      (rest : Polled st' st'') : Polled st st''

section Session

variable {st : Nmbs σ}

theorem Stops.running {halted : Halt} (h : Stops st halted) (htolerable : st.Tolerable) :
    halted = .running := by
  obtain hwaits | ⟨hintolerable, _⟩ := h
  · exact hwaits.1
  · exact absurd htolerable hintolerable

theorem Stops.undefined {halted : Halt} (h : Stops st halted) (hgo : st.conn.LetsGo) :
    halted = .undefined := by
  obtain hwaits | ⟨_, hundefined⟩ := h
  · exact absurd hgo hwaits.2
  · exact hundefined

/-- A round goes on, or ends the session; with `NONE` if and only if its poll is tolerable. -/
theorem wp_sessionRound (st : Nmbs σ) :
    Wp (Stops st) sessionRound (fun r st' => match r with
      | some err => err = .none ↔ st.Tolerable
      | none => st.Tolerable ∧ nmbsServerPoll st = .ok (.none, st') ∧
          st.conn.Progress st'.conn) st := by
  rw [sessionRound, wp_bind]
  apply wp_mono (wp_run (wp_nmbsServerPoll st))
  rintro err st' ⟨hpoll, ⟨htolerable, ⟨rfl, hprogress⟩ | rfl⟩ | ⟨hintolerable, herr, hleft⟩⟩
  · exact ⟨htolerable, hpoll, hprogress⟩
  · rw [if_neg (by decide), if_pos rfl]
    exact iff_of_true rfl htolerable
  · rw [if_neg herr, if_neg hleft]
    exact iff_of_false herr hintolerable

theorem session_survives (htolerable : ∀ st', Polled st st' → st'.Tolerable) (fuel : Nat) :
    Wp (· = .running) (loop sessionRound fuel) (fun err _ => err = .none) st := by
  apply wp_loop (H := (· = .running)) (I := fun st => ∀ st', Polled st st' → st'.Tolerable) rfl _
    fuel htolerable
  intro st htolerable
  have hst := htolerable st (.here st)
  apply wp_mono (wp_weaken (wp_sessionRound st) fun _ h => h.running hst)
  intro r st' h
  cases r with
  | some err => exact h.mpr hst
  | none => exact fun st'' hpolled => htolerable st'' (.next h.2.1 hpolled)

/-- A session with a client that reads its answers and hangs up some day is over after as many
polls as there are bytes and milliseconds to come. -/
theorem session_ends (hgo : st.conn.LetsGo) {fuel : Nat}
    (hfuel : st.conn.weight < fuel) : loop sessionRound fuel st ≠ .error .running := by
  have hreturns : Wp (· = .undefined) (loop sessionRound fuel) (fun _ _ => True) st := by
    apply wp_loop_total (I := fun st => st.conn.LetsGo) (fun st => st.conn.weight) _ fuel
      hgo hfuel
    intro st hgo
    apply wp_mono (wp_weaken (wp_sessionRound st) fun _ h => h.undefined hgo)
    intro r st' h
    cases r with
    | some err => trivial
    | none => exact h.2.2 hgo
  intro hrunning
  exact absurd (wp_error hreturns hrunning) (by decide)

theorem session_serves (htolerable : ∀ st', Polled st st' → st'.Tolerable)
    (hgo : st.conn.LetsGo) {fuel : Nat} (hfuel : st.conn.weight < fuel) :
    Wp (fun _ => False) (loop sessionRound fuel) (fun err _ => err = .none) st := by
  have hover := session_ends hgo hfuel
  apply wp_weaken (wp_run_error (session_survives htolerable fuel))
  rintro halted ⟨hrun, rfl⟩
  exact hover hrun

theorem session_fails {st' : Nmbs σ} (hpolled : Polled st st') (hintolerable : ¬ st'.Tolerable)
    (hgo : st.conn.LetsGo) {fuel : Nat} (hfuel : st.conn.weight < fuel) :
    Wp (· = .undefined) (loop sessionRound fuel) (fun err _ => err ≠ .none) st := by
  induction hpolled generalizing fuel with
  | here st =>
      obtain ⟨fuel, rfl⟩ : ∃ n, fuel = n + 1 := ⟨fuel - 1, by omega⟩
      rw [wp_loop_succ]
      apply wp_mono (wp_weaken (wp_sessionRound st) fun _ h => h.undefined hgo)
      intro r st' h
      cases r with
      | some err => exact h.not.mpr hintolerable
      | none => exact absurd h.1 hintolerable
  | next hpoll _ ih =>
      obtain ⟨fuel, rfl⟩ : ∃ n, fuel = n + 1 := ⟨fuel - 1, by omega⟩
      have hround : sessionRound _ = .ok (none, _) := bind_eq hpoll
      rw [wp_loop_succ, wp_of_eq hround]
      obtain ⟨_, ⟨_, hprogress⟩ | htransport⟩ | ⟨_, hnone, _⟩ := wp_ok (wp_nmbsServerPoll _) hpoll
      · obtain ⟨hgo', hweight⟩ := hprogress hgo
        exact ih hintolerable hgo' (by omega)
      · exact NmbsError.noConfusion htransport
      · exact absurd rfl hnone

end Session

section Run

variable (config : ModbusTcpConfig) (callbacks : NmbsCallbacks σ)

/-- The states in which the server polls while it serves the clients of a list. -/
inductive PollReached : List Accept → σ → Nmbs σ → Prop
  | now {accept : Accept} {accepts : List Accept} {userData : σ} {st : Nmbs σ}
      (haccepted : accept.result = .success)
      (hpolled : Polled (sessionStart config callbacks userData accept.conn) st) :
      PollReached (accept :: accepts) userData st
  | later {accept : Accept} {accepts : List Accept} {userData userData' : σ} {st : Nmbs σ}
      {fuel : Nat} (haccepted : accept.result = .success)
      (hserved : runModbusSession fuel config callbacks userData accept.conn =
        .ok (.none, userData'))
      (hclosed : accept.closeResult = .success) (h : PollReached accepts userData' st) :
      PollReached (accept :: accepts) userData st

/-- What the accept loop does if no client disturbs it: its exit, at the first call of its
own that fails, and the number of clients it has accepted by then. -/
def ownCourse : List Accept → Exit × Nat
  | [] => (.accepting, 0)
  | accept :: accepts =>
      if accept.result ≠ .success then (.failTcs "server" accept.result, 0)
      else if accept.closeResult ≠ .success then
        (.failTcs "tcs_close(client_socket)" accept.closeResult, 1)
      else ((ownCourse accepts).1, (ownCourse accepts).2 + 1)

def SocketScript.ownCourse (script : SocketScript) : Exit × Nat :=
  if script.libInit ≠ .success then (.failTcs "tcs_lib_init" script.libInit, 0)
  else if script.socket ≠ .success then (.failTcs "server" script.socket, 0)
  else if script.bind ≠ .success then (.failTcs "server" script.bind, 0)
  else if script.listen ≠ .success then (.failTcs "server" script.listen, 0)
  else DriveSim.ownCourse script.accepts

/-- The run has taken a course: its exit, and the number of clients it has accepted. -/
def TakesCourse (course : Exit × Nat) (exit : Exit) (server : Server σ) : Prop :=
  exit = course.1 ∧ server.calls.count .accept = course.2

variable {config callbacks}

theorem wp_cleanup {H : Halt → Prop} (listening : Bool) {result : TcsResult}
    (hfailed : result ≠ .success) (server : Server σ) :
    Wp H (cleanup listening result) (fun exit server' => exit = .failTcs "server" result ∧
      server'.calls.count .accept = server.calls.count .accept) server := by
  rw [wp_of_eq (cleanup_eq listening result server), if_neg hfailed]
  exact ⟨rfl, by cases listening <;> simp⟩

theorem wp_serveClient {H : Halt → Prop} {fuel : Nat} {conn : Conn} {userData : σ}
    {calls : List SocketCall} {Q : NmbsError → Server σ → Prop}
    (h : Wp H (loop sessionRound fuel) (fun err st => Q err ⟨st.arg, calls⟩)
      (sessionStart config callbacks userData conn)) :
    Wp H (serveClient (fun userData conn => runModbusSession fuel config callbacks userData conn)
      conn) Q ⟨userData, calls⟩ := by
  unfold Wp at *
  simp only [serveClient, runModbusSession]
  cases hloop : loop sessionRound fuel (sessionStart config callbacks userData conn) with
  | error halted =>
      rw [hloop] at h
      exact h
  | ok r =>
      rw [hloop] at h
      exact h

theorem runModbusSession_of_loop {fuel : Nat} {userData : σ} {conn : Conn} {err : NmbsError}
    {st : Nmbs σ}
    (h : loop sessionRound fuel (sessionStart config callbacks userData conn) = .ok (err, st)) :
    runModbusSession fuel config callbacks userData conn = .ok (err, st.arg) := by
  rw [runModbusSession, h]

theorem loop_of_runModbusSession {fuel : Nat} {userData userData' : σ} {conn : Conn}
    {err : NmbsError}
    (h : runModbusSession fuel config callbacks userData conn = .ok (err, userData')) :
    ∃ st, loop sessionRound fuel (sessionStart config callbacks userData conn) = .ok (err, st) ∧
      st.arg = userData' := by
  rw [runModbusSession] at h
  split at h
  · next err' st hloop =>
      obtain ⟨rfl, rfl⟩ := Prod.mk.inj (Except.ok.inj h)
      exact ⟨st, hloop, rfl⟩
  · exact absurd h (by simp)

/-- The accept loop takes its own course when every session ends in `NONE`. -/
theorem wp_acceptLoop {H : Halt → Prop} {fuel : Nat} (accepts : List Accept)
    (hserve : ∀ accept ∈ accepts, ∀ userData : σ,
      (∀ st, Polled (sessionStart config callbacks userData accept.conn) st → st.Tolerable) →
        Wp H (loop sessionRound fuel) (fun err _ => err = .none)
          (sessionStart config callbacks userData accept.conn))
    (server : Server σ)
    (htolerable : ∀ st, PollReached config callbacks accepts server.userData st → st.Tolerable) :
    Wp H (acceptLoop (fun userData conn => runModbusSession fuel config callbacks userData conn)
      accepts) (fun exit server' => exit = (ownCourse accepts).1 ∧
        server'.calls.count .accept = server.calls.count .accept + (ownCourse accepts).2)
      server := by
  induction accepts generalizing server with
  | nil => exact ⟨rfl, rfl⟩
  | cons accept accepts ih =>
      rw [wp_acceptLoop_cons, ownCourse]
      refine ⟨fun hrefused => ?_, fun haccepted => ?_⟩
      · rw [if_pos hrefused]
        exact wp_cleanup true hrefused server
      · rw [if_neg (not_not.mpr haccepted)]
        apply wp_serveClient
        apply wp_mono (wp_run (hserve accept List.mem_cons_self _
          fun st hpolled => htolerable st (.now haccepted hpolled)))
        rintro _ st ⟨hloop, rfl⟩
        have hserved := runModbusSession_of_loop hloop
        refine ⟨fun hopen => ?_, fun _ herr => absurd rfl herr, fun hclosed _ => ?_⟩
        · rw [if_pos hopen]
          exact ⟨rfl, by simp⟩
        · rw [if_neg (not_not.mpr hclosed)]
          apply wp_mono (ih (fun a ha => hserve a (List.mem_cons_of_mem _ ha)) _
            fun st hreached => htolerable st (.later haccepted hserved hclosed hreached))
          rintro exit server' ⟨hexit, hcount⟩
          refine ⟨hexit, ?_⟩
          rw [hcount]
          simp
          omega

theorem wp_modbusTcpRun {H : Halt → Prop} {fuel : Nat} {script : SocketScript} {userData : σ}
    (hserve : ∀ accept ∈ script.accepts, ∀ userData : σ,
      (∀ st, Polled (sessionStart config callbacks userData accept.conn) st → st.Tolerable) →
        Wp H (loop sessionRound fuel) (fun err _ => err = .none)
          (sessionStart config callbacks userData accept.conn))
    (htolerable : ∀ st, PollReached config callbacks script.accepts userData st →
      st.Tolerable) :
    Wp H (modbusTcpRun fuel config callbacks script) (TakesCourse script.ownCourse)
      ⟨userData, []⟩ := by
  unfold SocketScript.ownCourse
  apply wp_modbusTcpRun_of
  case hlibInit =>
    intro hlibInit
    rw [if_pos hlibInit]
    exact ⟨rfl, rfl⟩
  case hsocket =>
    intro hlibInit hsocket
    rw [if_neg (not_not.mpr hlibInit), if_pos hsocket]
    exact wp_cleanup false hsocket _
  case hbind =>
    intro hlibInit hsocket hbind
    rw [if_neg (not_not.mpr hlibInit), if_neg (not_not.mpr hsocket), if_pos hbind]
    exact wp_cleanup true hbind _
  case hlisten =>
    intro hlibInit hsocket hbind hlisten
    rw [if_neg (not_not.mpr hlibInit), if_neg (not_not.mpr hsocket),
      if_neg (not_not.mpr hbind), if_pos hlisten]
    exact wp_cleanup true hlisten _
  case haccept =>
    intro hlibInit hsocket hbind hlisten
    rw [if_neg (not_not.mpr hlibInit), if_neg (not_not.mpr hsocket),
      if_neg (not_not.mpr hbind), if_neg (not_not.mpr hlisten)]
    apply wp_mono (wp_acceptLoop script.accepts hserve _ htolerable)
    rintro exit server' ⟨hexit, hcount⟩
    exact ⟨hexit, by rw [hcount]; simp⟩

/-- No client makes `ModbusTcp_run` return: however long it runs, it ends in no other way
than by its own socket calls; and when every client reads its answers and hangs up some day,
it goes on from one client to the next until one of them fails or nobody else connects. -/
structure OutlivesClients (config : ModbusTcpConfig) (callbacks : NmbsCallbacks σ)
    (script : SocketScript) (userData : σ) : Prop where
  never_leaves : ∀ fuel, Wp (· = .running) (modbusTcpRun fuel config callbacks script)
    (TakesCourse script.ownCourse) ⟨userData, []⟩
  goes_on : (∀ accept ∈ script.accepts, accept.conn.LetsGo) →
    ∀ fuel, (∀ accept ∈ script.accepts, accept.conn.weight < fuel) →
      Wp (fun _ => False) (modbusTcpRun fuel config callbacks script)
        (TakesCourse script.ownCourse) ⟨userData, []⟩

/-- No client takes the server down in a run whose polls all start in a tolerable state. -/
theorem outlives_clients (config : ModbusTcpConfig) (callbacks : NmbsCallbacks σ)
    (script : SocketScript) (userData : σ)
    (htolerable : ∀ st, PollReached config callbacks script.accepts userData st →
      st.Tolerable) : OutlivesClients config callbacks script userData := by
  constructor
  · intro fuel
    exact wp_modbusTcpRun (fun accept _ userData hpolled => session_survives hpolled fuel)
      htolerable
  · intro hgo fuel hfuel
    exact wp_modbusTcpRun (fun accept haccept userData hpolled =>
      session_serves hpolled (hgo accept haccept) (hfuel accept haccept)) htolerable

/-! ## Nothing weaker would do -/

/-- A client with an intolerable poll takes the server down, if it lets it go at all. -/
theorem wp_acceptLoop_of_intolerable {accepts : List Accept} {userData : σ} {st : Nmbs σ}
    (hreached : PollReached config callbacks accepts userData st) (hintolerable : ¬ st.Tolerable)
    (hgo : ∀ accept ∈ accepts, accept.conn.LetsGo)
    (hclosed : ∀ accept ∈ accepts, accept.closeResult = .success) {fuel : Nat}
    (hfuel : ∀ accept ∈ accepts, accept.conn.weight < fuel) (calls : List SocketCall) :
    Wp (· = .undefined)
      (acceptLoop (fun userData conn => runModbusSession fuel config callbacks userData conn)
        accepts)
      (fun exit _ => ∃ err, exit = .failNmbs "run_modbus_session" err) ⟨userData, calls⟩ := by
  induction hreached generalizing calls with
  | now haccepted hpolled =>
      have hclose := hclosed _ List.mem_cons_self
      rw [wp_acceptLoop_cons]
      refine ⟨fun hrefused => absurd haccepted hrefused, fun _ => wp_serveClient ?_⟩
      apply wp_mono (session_fails hpolled hintolerable (hgo _ List.mem_cons_self)
        (hfuel _ List.mem_cons_self))
      intro err st herr
      exact ⟨fun hopen => absurd hclose hopen, fun _ _ => ⟨err, rfl⟩,
        fun _ hnone => absurd hnone herr⟩
  | @later accept accepts userData _ _ _ haccepted hserved hclose _ ih =>
      obtain ⟨st', hloop, rfl⟩ := loop_of_runModbusSession hserved
      have hover : loop sessionRound fuel (sessionStart config callbacks userData accept.conn) ≠
          .error .running :=
        session_ends (hgo _ List.mem_cons_self) (hfuel _ List.mem_cons_self)
      have hsame := loop_unique hover (by rw [hloop]; simp)
      rw [wp_acceptLoop_cons]
      refine ⟨fun hrefused => absurd haccepted hrefused, fun _ => wp_serveClient ?_⟩
      rw [wp_of_eq (hsame.trans hloop)]
      refine ⟨fun hopen => absurd hclose hopen, fun _ herr => absurd rfl herr, fun _ _ => ?_⟩
      exact ih hintolerable (fun a ha => hgo a (List.mem_cons_of_mem _ ha))
        (fun a ha => hclosed a (List.mem_cons_of_mem _ ha))
        (fun a ha => hfuel a (List.mem_cons_of_mem _ ha)) _

theorem ownCourse_ne_failNmbs (accepts : List Accept) (step : String) (err : NmbsError) :
    (ownCourse accepts).1 ≠ .failNmbs step err := by
  induction accepts with
  | nil => exact Exit.noConfusion
  | cons accept accepts ih =>
      rw [ownCourse]
      split_ifs
      · exact Exit.noConfusion
      · exact Exit.noConfusion
      · exact ih

/-- Where the server sets up its socket, every client reads its answers and hangs up some
day, and every client socket closes successfully, the condition is exact. -/
theorem tolerable_of_outlives {script : SocketScript} {userData : σ}
    (houtlives : OutlivesClients config callbacks script userData)
    (hsetup : script.libInit = .success ∧ script.socket = .success ∧ script.bind = .success ∧
      script.listen = .success)
    (hgo : ∀ accept ∈ script.accepts, accept.conn.LetsGo)
    (hclosed : ∀ accept ∈ script.accepts, accept.closeResult = .success) {st : Nmbs σ}
    (hreached : PollReached config callbacks script.accepts userData st) : st.Tolerable := by
  by_contra hintolerable
  obtain ⟨hlibInit, hsocket, hbind, hlisten⟩ := hsetup
  obtain ⟨fuel, hfuel⟩ : ∃ fuel, ∀ accept ∈ script.accepts, accept.conn.weight < fuel := by
    refine ⟨(script.accepts.map (·.conn.weight)).sum + 1, fun accept haccept => ?_⟩
    exact Nat.lt_succ_of_le (List.le_sum_of_mem (List.mem_map_of_mem haccept))
  obtain ⟨exit, server, hrun, hexit, _⟩ := wp_total (houtlives.goes_on hgo fuel hfuel)
  have hfails : Wp (· = .undefined) (modbusTcpRun fuel config callbacks script)
      (fun exit _ => ∃ err, exit = .failNmbs "run_modbus_session" err) ⟨userData, []⟩ := by
    exact wp_modbusTcpRun_of (fun h => absurd hlibInit h) (fun _ h => absurd hsocket h)
      (fun _ _ h => absurd hbind h) (fun _ _ _ h => absurd hlisten h) fun _ _ _ _ =>
      wp_acceptLoop_of_intolerable hreached hintolerable hgo hclosed hfuel _
  obtain ⟨err, hfailed⟩ := wp_ok hfails hrun
  have hown : script.ownCourse = ownCourse script.accepts := by
    rw [SocketScript.ownCourse, if_neg (not_not.mpr hlibInit), if_neg (not_not.mpr hsocket),
      if_neg (not_not.mpr hbind), if_neg (not_not.mpr hlisten)]
  rw [hown] at hexit
  exact ownCourse_ne_failNmbs _ _ _ (hexit.symm.trans hfailed)

end Run

/-! ## The condition can be checked by running the server -/

section Check

def sessionTolerates : Nat → Nmbs σ → Bool
  | 0, _ => false
  | fuel + 1, st => decide st.Tolerable && match nmbsServerPoll st with
      | .ok (.none, st') => sessionTolerates fuel st'
      | _ => true

theorem tolerable_of_polled {fuel : Nat} {st st' : Nmbs σ}
    (h : sessionTolerates fuel st = true) (hpolled : Polled st st') : st'.Tolerable := by
  induction hpolled generalizing fuel with
  | here st =>
      cases fuel with
      | zero => exact Bool.noConfusion h
      | succ fuel =>
          rw [sessionTolerates, Bool.and_eq_true, decide_eq_true_eq] at h
          exact h.1
  | next hpoll _ ih =>
      cases fuel with
      | zero => exact Bool.noConfusion h
      | succ fuel =>
          rw [sessionTolerates, hpoll, Bool.and_eq_true] at h
          exact ih h.2

variable {config : ModbusTcpConfig} {callbacks : NmbsCallbacks σ}

def tolerates (fuel : Nat) (config : ModbusTcpConfig) (callbacks : NmbsCallbacks σ) :
    List Accept → σ → Bool
  | [], _ => true
  | accept :: accepts, userData =>
      accept.result != .success ||
        (sessionTolerates fuel (sessionStart config callbacks userData accept.conn) &&
          match runModbusSession fuel config callbacks userData accept.conn with
          | .ok (_, userData') => tolerates fuel config callbacks accepts userData'
          | .error _ => false)

theorem runModbusSession_unique {fuel fuel' : Nat} {userData : σ} {conn : Conn}
    {r r' : NmbsError × σ} (h : runModbusSession fuel config callbacks userData conn = .ok r)
    (h' : runModbusSession fuel' config callbacks userData conn = .ok r') : r = r' := by
  have hreturned : ∀ {n : Nat} {r : NmbsError × σ},
      runModbusSession n config callbacks userData conn = .ok r →
        loop sessionRound n (sessionStart config callbacks userData conn) ≠
          .error .running := by
    intro n r h hrunning
    rw [runModbusSession, hrunning] at h
    exact absurd h (by simp)
  have hsame := loop_unique (hreturned h) (hreturned h')
  rw [runModbusSession, hsame] at h
  rw [runModbusSession] at h'
  exact Except.ok.inj (h.symm.trans h')

theorem tolerable_of_reached {fuel : Nat} {accepts : List Accept} {userData : σ} {st : Nmbs σ}
    (h : tolerates fuel config callbacks accepts userData = true)
    (hreached : PollReached config callbacks accepts userData st) : st.Tolerable := by
  induction hreached with
  | now haccepted hpolled =>
      simp only [tolerates, haccepted, bne_self_eq_false, Bool.false_or, Bool.and_eq_true] at h
      exact tolerable_of_polled h.1 hpolled
  | later haccepted hserved hclosed _ ih =>
      simp only [tolerates, haccepted, bne_self_eq_false, Bool.false_or, Bool.and_eq_true] at h
      split at h
      · next hserved' =>
          obtain rfl := (Prod.mk.inj (runModbusSession_unique hserved hserved')).2
          exact ih h.2
      · exact Bool.noConfusion h.2

end Check

/-! ## Clients -/

section Clients

/-- A peer that sends `bytes` at once, pauses for `pause` milliseconds before the rest of
them, and hangs up after some more time. -/
def clientOf (bytes rest : List UInt8) (pause after : Nat) : Accept where
  result := .success
  conn :=
    { incoming :=
        { arrivals := bytes.map (0, ·) ++
            (rest.take 1).map (pause, ·) ++ (rest.drop 1).map (0, ·)
          ending := .ended true after }
      rcvTimeo := 0
      clock := 0
      sends := fun _ => some ⟨.success, 0⟩
      written := [] }
  closeResult := .success

def scriptOf (accepts : List Accept) : SocketScript :=
  ⟨.success, .success, .success, .success, accepts⟩

/-- A torque command in two pieces, a client that leaves in its header, and then a failure
of the listening socket. -/
def friendlyScript : SocketScript :=
  scriptOf [clientOf [0, 1, 0] [0, 0, 6, 1, 6, 0, 0, 0, 100] 400 2500, clientOf [0] [] 0 300,
    { clientOf [] [] 0 0 with result := .errorSystem }]

theorem outlives_clients_main :
    OutlivesClients modbusTcpConfigInit (appCallbacks Conversions.wrapping) friendlyScript
      (appInit (mainParams : VehicleParams ℚ) 0) ∧
    friendlyScript.ownCourse = (.failTcs "server" .errorSystem, 2) :=
  ⟨outlives_clients _ _ _ _ fun _ hreached =>
    tolerable_of_reached (show tolerates 6 _ _ _ _ = true by decide +kernel) hreached, by decide⟩

/-- One frame with protocol identifier 1, and a second client that waits for its turn. -/
def foreignScript : SocketScript :=
  scriptOf [clientOf [0, 1, 0, 1, 0, 6, 1, 6, 0, 0, 0, 100] [] 0 2500,
    clientOf [0, 2, 0, 0, 0, 6, 1, 3, 0, 0, 0, 1] [] 0 2500]

def mainRun (fuel : Nat) (script : SocketScript) :
    Except Halt (Exit × Server (AppContext ℚ)) :=
  modbusTcpRun fuel modbusTcpConfigInit (appCallbacks Conversions.wrapping) script
    ⟨appInit mainParams 0, []⟩

/-- `ModbusTcp_run` returns 1, and nobody serves the second client. -/
theorem foreign_client_ends_server :
    (∃ server, mainRun 1 foreignScript =
      .ok (.failNmbs "run_modbus_session" .invalidTcpMbap, server) ∧
      server.calls.count .accept = 1) ∧
    ¬ OutlivesClients modbusTcpConfigInit (appCallbacks Conversions.wrapping) foreignScript
      (appInit (mainParams : VehicleParams ℚ) 0) := by
  have hrun : (mainRun 1 foreignScript).toOption.map (fun r => (r.1, r.2.calls.count .accept)) =
      some (.failNmbs "run_modbus_session" .invalidTcpMbap, 1) := by decide +kernel
  obtain ⟨⟨exit, server⟩, hreturned, hresult⟩ := exists_ok_of_map hrun
  obtain ⟨rfl, hcount⟩ := Prod.mk.inj hresult
  refine ⟨⟨server, hreturned, hcount⟩, fun houtlives => ?_⟩
  have hcourse := wp_ok (houtlives.never_leaves 1) hreturned
  have hown : foreignScript.ownCourse.1 = .accepting := by decide
  exact Exit.noConfusion (hcourse.1.trans hown)

end Clients

end DriveSim
