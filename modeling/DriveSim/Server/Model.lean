import DriveSim.Nmbs.Handlers

/-!
# The server of `ModbusTcp.c`

The accept loop and the session with one client.  What the socket library answers is
a script: the results of the calls that set the listening socket up, and one entry for
each `tcs_accept`.  The calls that acquire or release something are logged.
-/

namespace DriveSim

open Lib

/-- `ModbusTcpConfig` without `unit_id`, which nothing reads over TCP. -/
structure ModbusTcpConfig where
  port : UInt16
  readTimeoutMs : Int
  byteTimeoutMs : Int

def modbusTcpConfigInit : ModbusTcpConfig := ⟨5020, 1000, 1000⟩

section Session

variable {σ : Type*}

/-- The state in front of the loop of `run_modbus_session`.  The callbacks are copied one
by one, and `user_data` is the argument of all of them. -/
def sessionStart (config : ModbusTcpConfig) (callbacks : NmbsCallbacks σ) (userData : σ)
    (conn : Conn) : Nmbs σ :=
  ((Nmbs.serverCreate callbacks userData conn).setReadTimeout config.readTimeoutMs).setByteTimeout
    config.byteTimeoutMs

/-- One round of the loop: `NONE` goes on, `TRANSPORT` is a client that has left. -/
def sessionRound : NmbsM σ (Option NmbsError) := do
  let err ← nmbsServerPoll
  if err = .none then return none
  if err = .transport then return some .none
  return some err

def runModbusSession (fuel : Nat) (config : ModbusTcpConfig) (callbacks : NmbsCallbacks σ)
    (userData : σ) (conn : Conn) : Except Halt (NmbsError × σ) :=
  match Program.loop sessionRound fuel (sessionStart config callbacks userData conn) with
  | .ok (err, st) => .ok (err, st.arg)
  | .error halted => .error halted

end Session

/-! ## The accept loop -/

/-- The calls of the socket library that acquire or release something. -/
inductive SocketCall
  | libInit
  | socket
  | bind (port : UInt16)
  | listen
  | accept
  | closeClient
  | closeListener
  | libFree
deriving DecidableEq

/-- One `tcs_accept`, the client it returns, and the result of closing it. -/
structure Accept where
  result : TcsResult
  conn : Conn
  closeResult : TcsResult

/-- The results of the socket library; when the list is over nobody else connects. -/
structure SocketScript where
  libInit : TcsResult
  socket : TcsResult
  bind : TcsResult
  listen : TcsResult
  accepts : List Accept

/-- How `ModbusTcp_run` ends.  The two `fail` functions print the step and return 1;
`accepting` is a server that waits in `tcs_accept`. -/
inductive Exit
  | failTcs (step : String) (result : TcsResult)
  | failNmbs (step : String) (err : NmbsError)
  | success
  | accepting
deriving DecidableEq

structure Server (σ : Type*) where
  userData : σ
  calls : List SocketCall

abbrev ServerM (σ : Type*) := Program (Server σ)

section Server

variable {σ : Type*}

def call (c : SocketCall) : ServerM σ Unit :=
  Program.modify fun server => { server with calls := server.calls ++ [c] }

def cleanup (listening : Bool) (result : TcsResult) : ServerM σ Exit := do
  if listening then call .closeListener
  call .libFree
  if result ≠ .success then return .failTcs "server" result
  return .success

def serveClient (session : σ → Conn → Except Halt (NmbsError × σ)) (conn : Conn) :
    ServerM σ NmbsError := fun server =>
  match session server.userData conn with
  | .ok (err, userData) => .ok (err, { server with userData := userData })
  | .error halted => .error halted

def acceptLoop (session : σ → Conn → Except Halt (NmbsError × σ)) :
    List Accept → ServerM σ Exit
  | [] => return .accepting
  | accept :: accepts => do
      if accept.result ≠ .success then return ← cleanup true accept.result
      call .accept
      let err ← serveClient session accept.conn
      call .closeClient
      if accept.closeResult ≠ .success then
        return .failTcs "tcs_close(client_socket)" accept.closeResult
      if err ≠ .none then return .failNmbs "run_modbus_session" err
      acceptLoop session accepts

/-- `ModbusTcp_run`, with `fuel` polls for each session. -/
def modbusTcpRun (fuel : Nat) (config : ModbusTcpConfig) (callbacks : NmbsCallbacks σ)
    (script : SocketScript) : ServerM σ Exit := do
  if script.libInit ≠ .success then return .failTcs "tcs_lib_init" script.libInit
  call .libInit
  if script.socket ≠ .success then return ← cleanup false script.socket
  call .socket
  call (.bind config.port)
  if script.bind ≠ .success then return ← cleanup true script.bind
  call .listen
  if script.listen ≠ .success then return ← cleanup true script.listen
  acceptLoop (fun userData conn => runModbusSession fuel config callbacks userData conn)
    script.accepts

/-! ## What each part does -/

theorem cleanup_eq (listening : Bool) (result : TcsResult) (server : Server σ) :
    cleanup listening result server =
      .ok (if result = .success then .success else .failTcs "server" result,
        { server with calls :=
            server.calls ++ (if listening then [.closeListener] else []) ++ [.libFree] }) := by
  unfold cleanup
  cases listening with
  | false =>
      rw [if_neg Bool.false_ne_true, if_neg Bool.false_ne_true, List.append_nil]
      by_cases hresult : result = .success
      · rw [if_pos hresult, if_neg (not_not.mpr hresult)]
        rfl
      · rw [if_neg hresult, if_pos hresult]
        rfl
  | true =>
      rw [if_pos rfl, if_pos rfl]
      by_cases hresult : result = .success
      · rw [if_pos hresult, if_neg (not_not.mpr hresult)]
        rfl
      · rw [if_neg hresult, if_pos hresult]
        rfl

open Program

variable {H : Halt → Prop} {Q : Exit → Server σ → Prop}

theorem wp_acceptLoop_cons (session : σ → Conn → Except Halt (NmbsError × σ)) (accept : Accept)
    (accepts : List Accept) (server : Server σ) :
    Wp H (acceptLoop session (accept :: accepts)) Q server ↔
      (accept.result ≠ .success → Wp H (cleanup true accept.result) Q server) ∧
      (accept.result = .success →
        Wp H (serveClient session accept.conn) (fun err server' =>
          (accept.closeResult ≠ .success →
            Q (.failTcs "tcs_close(client_socket)" accept.closeResult)
              { server' with calls := server'.calls ++ [.closeClient] }) ∧
          (accept.closeResult = .success → err ≠ .none →
            Q (.failNmbs "run_modbus_session" err)
              { server' with calls := server'.calls ++ [.closeClient] }) ∧
          (accept.closeResult = .success → err = .none →
            Wp H (acceptLoop session accepts) Q
              { server' with calls := server'.calls ++ [.closeClient] }))
          { server with calls := server.calls ++ [.accept] }) := by
  rw [acceptLoop]
  by_cases haccepted : accept.result = .success
  · rw [if_neg (not_not.mpr haccepted), wp_bind, call, wp_modify, wp_bind]
    simp only [haccepted, ne_eq, not_true, false_imp_iff, true_and, true_imp_iff]
    apply iff_of_eq
    congr 1
    ext err server'
    rw [wp_bind, call, wp_modify]
    by_cases hclosed : accept.closeResult = .success
    · by_cases herr : err = .none <;> simp [hclosed, herr]
    · simp [hclosed]
  · rw [if_pos haccepted]
    simp [haccepted]

theorem wp_modbusTcpRun_of {fuel : Nat} {config : ModbusTcpConfig} {callbacks : NmbsCallbacks σ}
    {script : SocketScript} {userData : σ}
    (hlibInit : script.libInit ≠ .success →
      Q (.failTcs "tcs_lib_init" script.libInit) ⟨userData, []⟩)
    (hsocket : script.libInit = .success → script.socket ≠ .success →
      Wp H (cleanup false script.socket) Q ⟨userData, [.libInit]⟩)
    (hbind : script.libInit = .success → script.socket = .success → script.bind ≠ .success →
      Wp H (cleanup true script.bind) Q ⟨userData, [.libInit, .socket, .bind config.port]⟩)
    (hlisten : script.libInit = .success → script.socket = .success →
      script.bind = .success → script.listen ≠ .success →
      Wp H (cleanup true script.listen) Q
        ⟨userData, [.libInit, .socket, .bind config.port, .listen]⟩)
    (haccept : script.libInit = .success → script.socket = .success →
      script.bind = .success → script.listen = .success →
      Wp H (acceptLoop (runModbusSession fuel config callbacks) script.accepts) Q
        ⟨userData, [.libInit, .socket, .bind config.port, .listen]⟩) :
    Wp H (modbusTcpRun fuel config callbacks script) Q ⟨userData, []⟩ := by
  rw [modbusTcpRun]
  by_cases h₁ : script.libInit = .success
  · rw [if_neg (not_not.mpr h₁), wp_bind, call, wp_modify]
    by_cases h₂ : script.socket = .success
    · rw [if_neg (not_not.mpr h₂), wp_bind, call, wp_modify, wp_bind, call, wp_modify]
      by_cases h₃ : script.bind = .success
      · rw [if_neg (not_not.mpr h₃), wp_bind, call, wp_modify]
        by_cases h₄ : script.listen = .success
        · rw [if_neg (not_not.mpr h₄)]
          exact haccept h₁ h₂ h₃ h₄
        · rw [if_pos h₄]
          exact hlisten h₁ h₂ h₃ h₄
      · rw [if_pos h₃]
        exact hbind h₁ h₂ h₃
    · rw [if_pos h₂]
      exact hsocket h₁ h₂
  · rw [if_pos h₁]
    exact hlibInit h₁

end Server

end DriveSim
