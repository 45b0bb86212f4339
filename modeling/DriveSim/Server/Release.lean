import DriveSim.Server.Survival

/-!
# What `ModbusTcp_run` releases

Every way out through the label `cleanup` releases the listening socket and the library.
The accept loop has two more exits, after a session that failed and after a client socket
that could not be closed, and both go past the label.
-/

namespace DriveSim

open Lib Program

variable {σ : Type*}

def clientCalls (calls : List SocketCall) : List SocketCall :=
  calls.filter fun c => c = .accept ∨ c = .closeClient

def clientsServed (n : ℕ) : List SocketCall :=
  (List.replicate n [.accept, .closeClient]).flatten

structure Released (calls : List SocketCall) : Prop where
  listener : .socket ∈ calls → .closeListener ∈ calls
  clients : ∃ n, clientCalls calls = clientsServed n
  library : calls.count .libFree = 1

/-- The accept loop is left by a `tcs_accept` that fails: up to then every session ends with
`NONE` and every client socket can be closed. -/
def LeftByAccept (session : σ → Conn → Except Halt (NmbsError × σ)) : List Accept → σ → Prop
  | [], _ => False
  | accept :: accepts, userData =>
      accept.result ≠ .success ∨
        ∃ userData', session userData accept.conn = .ok (.none, userData') ∧
          accept.closeResult = .success ∧ LeftByAccept session accepts userData'

/-- A call of the set-up fails, or the accept loop is left by a failing `tcs_accept`. -/
def SocketScript.LeftByCleanup (script : SocketScript)
    (session : σ → Conn → Except Halt (NmbsError × σ)) (userData : σ) : Prop :=
  script.socket ≠ .success ∨ script.bind ≠ .success ∨ script.listen ≠ .success ∨
    LeftByAccept session script.accepts userData

theorem clientsServed_succ (n : ℕ) :
    clientsServed (n + 1) = .accept :: .closeClient :: clientsServed n := by
  simp [clientsServed, List.replicate_succ]

theorem mem_clientsServed {n : ℕ} {c : SocketCall} (h : c ∈ clientsServed n) :
    c = .accept ∨ c = .closeClient := by
  obtain ⟨served, hserved, hc⟩ := List.mem_flatten.mp h
  rw [List.eq_of_mem_replicate hserved] at hc
  simpa using hc

/-! ## The call log -/

theorem wp_serveClient_calls {session : σ → Conn → Except Halt (NmbsError × σ)} {conn : Conn}
    {Q : NmbsError → Server σ → Prop} {server : Server σ}
    (h : ∀ err userData, session server.userData conn = .ok (err, userData) →
      Q err ⟨userData, server.calls⟩) :
    Wp (fun _ => True) (serveClient session conn) Q server := by
  unfold Wp serveClient
  cases hsession : session server.userData conn with
  | error halted => trivial
  | ok r => exact h r.1 r.2 hsession

/-- The log of the accept loop: the clients, and the releases if it is left by the label. -/
theorem wp_acceptLoop_calls (session : σ → Conn → Except Halt (NmbsError × σ))
    (accepts : List Accept) (server : Server σ) :
    Wp (fun _ => True) (acceptLoop session accepts) (fun exit server' => exit ≠ .accepting →
      ∃ n, LeftByAccept session accepts server.userData ∧
          server'.calls = server.calls ++ clientsServed n ++ [.closeListener, .libFree] ∨
        ¬ LeftByAccept session accepts server.userData ∧
          server'.calls = server.calls ++ clientsServed n) server := by
  induction accepts generalizing server with
  | nil => exact fun h => absurd rfl h
  | cons accept accepts ih =>
      rw [wp_acceptLoop_cons, LeftByAccept]
      refine ⟨fun hrefused => ?_, fun haccepted => wp_serveClient_calls fun err userData h => ?_⟩
      · rw [wp_of_eq (cleanup_eq true accept.result server)]
        exact fun _ => ⟨0, Or.inl ⟨Or.inl hrefused, by simp [clientsServed]⟩⟩
      · have hserved : ∀ calls : List SocketCall, calls ++ [.accept] ++ [.closeClient] =
            calls ++ clientsServed 1 := fun calls => List.append_assoc ..
        rw [or_iff_right (not_not.mpr haccepted)]
        simp only at h
        rw [h]
        refine ⟨fun hopen _ => ?_, fun _ herr _ => ?_, fun hclosed herr => ?_⟩
        · exact ⟨1, Or.inr ⟨fun hleft => hopen hleft.choose_spec.2.1, hserved _⟩⟩
        · refine ⟨1, Or.inr ⟨?_, hserved _⟩⟩
          rintro ⟨_, hnone, -⟩
          exact herr (Prod.mk.inj (Except.ok.inj hnone)).1
        · apply wp_mono (ih _)
          intro exit server' hlog hexit
          obtain ⟨n, ⟨hleft, hcalls⟩ | ⟨hleft, hcalls⟩⟩ := hlog hexit
          · refine ⟨n + 1, Or.inl ⟨⟨userData, by rw [herr], hclosed, hleft⟩, ?_⟩⟩
            rw [hcalls, clientsServed_succ]
            simp
          · refine ⟨n + 1, Or.inr ⟨?_, ?_⟩⟩
            · rintro ⟨_, hnone, -, hrest⟩
              obtain rfl := (Prod.mk.inj (Except.ok.inj hnone)).2
              exact hleft hrest
            · rw [hcalls, clientsServed_succ]
              simp

/-! ## The whole run -/

def servedLog (port : UInt16) (n : ℕ) : List SocketCall :=
  [.libInit, .socket, .bind port, .listen] ++ clientsServed n

theorem released_servedLog (port : UInt16) (n : ℕ) :
    Released (servedLog port n ++ [.closeListener, .libFree]) where
  listener _ := by simp
  clients := by
    refine ⟨n, ?_⟩
    simp only [clientCalls, servedLog, List.filter_append]
    simpa using fun c => mem_clientsServed (n := n) (c := c)
  library := by
    have hfree : (clientsServed n).count .libFree = 0 := by
      rw [List.count_eq_zero]
      intro h
      simpa using mem_clientsServed h
    simp [servedLog, List.count_append, hfree]

theorem not_released_servedLog (port : UInt16) (n : ℕ) : ¬ Released (servedLog port n) := by
  intro h
  have hfree : SocketCall.libFree ∈ servedLog port n := by
    rw [← List.count_pos_iff, h.library]
    exact Nat.one_pos
  rcases List.mem_append.mp hfree with hsetup | hserved
  · simp at hsetup
  · simpa using mem_clientsServed hserved

theorem wp_modbusTcpRun_released (fuel : Nat) (config : ModbusTcpConfig)
    (callbacks : NmbsCallbacks σ) {script : SocketScript} (userData : σ)
    (hlibInit : script.libInit = .success) :
    Wp (fun _ => True) (modbusTcpRun fuel config callbacks script)
      (fun exit server => exit ≠ .accepting → (Released server.calls ↔
        script.LeftByCleanup (runModbusSession fuel config callbacks) userData))
      ⟨userData, []⟩ := by
  apply wp_modbusTcpRun_of
  case hlibInit => exact fun h => absurd hlibInit h
  case hsocket =>
    intro _ hsocket
    rw [wp_of_eq (cleanup_eq false script.socket _)]
    intro _
    refine iff_of_true ⟨by simp, ⟨0, by simp [clientCalls, clientsServed]⟩, by simp⟩ ?_
    exact Or.inl hsocket
  case hbind =>
    intro _ _ hbind
    rw [wp_of_eq (cleanup_eq true script.bind _)]
    intro _
    refine iff_of_true ⟨by simp, ⟨0, by simp [clientCalls, clientsServed]⟩, by simp⟩ ?_
    exact Or.inr (Or.inl hbind)
  case hlisten =>
    intro _ _ _ hlisten
    rw [wp_of_eq (cleanup_eq true script.listen _)]
    intro _
    exact iff_of_true (released_servedLog config.port 0) (Or.inr (Or.inr (Or.inl hlisten)))
  case haccept =>
    intro _ hsocket hbind hlisten
    apply wp_mono (wp_acceptLoop_calls _ script.accepts _)
    intro exit server hlog hexit
    have hcleanup : script.LeftByCleanup (runModbusSession fuel config callbacks) userData ↔
        LeftByAccept (runModbusSession fuel config callbacks) script.accepts userData := by
      simp [SocketScript.LeftByCleanup, hsocket, hbind, hlisten]
    rw [hcleanup]
    obtain ⟨n, ⟨hleft, hcalls⟩ | ⟨hleft, hcalls⟩⟩ := hlog hexit
    · rw [hcalls]
      exact iff_of_true (released_servedLog config.port n) hleft
    · rw [hcalls]
      exact iff_of_false (not_released_servedLog config.port n) hleft

/-- `ModbusTcp_run` releases what it acquired exactly when it leaves through its label. -/
theorem released_iff_leftByCleanup (fuel : Nat) (config : ModbusTcpConfig)
    (callbacks : NmbsCallbacks σ) (script : SocketScript) (userData : σ) (exit : Exit)
    (server : Server σ) (hlibInit : script.libInit = .success)
    (hrun : modbusTcpRun fuel config callbacks script ⟨userData, []⟩ = .ok (exit, server))
    (hreturned : exit ≠ .accepting) :
    Released server.calls ↔
      script.LeftByCleanup (runModbusSession fuel config callbacks) userData :=
  wp_ok (wp_modbusTcpRun_released fuel config callbacks userData hlibInit) hrun hreturned

/-! ## Runs of the server of `main` -/

/-- The friendly run ends in a failing `tcs_accept`, after two clients. -/
theorem released_iff_leftByCleanup_friendly :
    ∃ exit server, mainRun 6 friendlyScript = .ok (exit, server) ∧
      (Released server.calls ↔ friendlyScript.LeftByCleanup
        (runModbusSession 6 modbusTcpConfigInit (appCallbacks Conversions.wrapping))
        (appInit (mainParams : VehicleParams ℚ) 0)) := by
  have hexit : (mainRun 6 friendlyScript).toOption.map (·.1) =
      some (.failTcs "server" .errorSystem) := by decide +kernel
  obtain ⟨⟨exit, server⟩, hrun, rfl⟩ := exists_ok_of_map hexit
  exact ⟨_, server, hrun, released_iff_leftByCleanup 6 modbusTcpConfigInit
    (appCallbacks Conversions.wrapping) friendlyScript (appInit mainParams 0) _ server rfl hrun
    Exit.noConfusion⟩

/-- After the frame of the foreign client the server returns with its listening socket open
and the library still in use. -/
theorem foreign_client_leaks :
    ∃ server, mainRun 1 foreignScript =
        .ok (.failNmbs "run_modbus_session" .invalidTcpMbap, server) ∧
      SocketCall.socket ∈ server.calls ∧ SocketCall.closeListener ∉ server.calls ∧
      server.calls.count .libFree = 0 ∧ ¬ Released server.calls := by
  have hlog : (mainRun 1 foreignScript).toOption.map (fun r => (r.1, r.2.calls)) =
      some (.failNmbs "run_modbus_session" .invalidTcpMbap,
        [.libInit, .socket, .bind 5020, .listen, .accept, .closeClient]) := by decide +kernel
  obtain ⟨⟨exit, server⟩, hrun, hresult⟩ := exists_ok_of_map hlog
  obtain ⟨rfl, hcalls⟩ := Prod.mk.inj hresult
  simp only at hcalls
  refine ⟨server, hrun, ?_⟩
  rw [hcalls]
  refine ⟨by decide, by decide, by decide, fun h => ?_⟩
  exact absurd (h.listener (by decide)) (by decide)

end DriveSim
