import GhostbustersServer.Effects.Refinement

/-!
# What becomes of connections

    Aged w w'      the connections there are keep their addresses, and none comes back
                   into the tables; PIDs fit their field
    step_aged      every event
-/

namespace Ghostbusters

open Py Act PRUDPServer

/-- The tables lead to the connection. -/
def Live (w : World) (c : ConnId) : Prop :=
  (w.connections (w.heap c).localPort).get? (w.heap c).remote = some c

instance (w : World) (c : ConnId) : Decidable (Live w c) := by
  unfold Live
  infer_instance

structure Aged (w w' : World) : Prop where
  nextConn : w.nextConn ≤ w'.nextConn
  home : ∀ c < w.nextConn, (w'.heap c).localPort = (w.heap c).localPort ∧
    (w'.heap c).remote = (w.heap c).remote
  live : ∀ c < w.nextConn, Live w' c → Live w c
  pid : ∀ c, (w'.heap c).userPid = (w.heap c).userPid ∨ (w'.heap c).userPid < 2 ^ 32

instance : IsPreorder World Aged where
  refl := fun _ => ⟨Nat.le_refl _, fun _ _ => ⟨rfl, rfl⟩, fun _ _ h => h, fun _ => .inl rfl⟩
  trans := by
    intro a b c h1 h2
    refine ⟨h1.nextConn.trans h2.nextConn, ?_, ?_, ?_⟩
    · intro k hk
      have hk' := hk.trans_le h1.nextConn
      exact ⟨(h2.home k hk').1.trans (h1.home k hk).1, (h2.home k hk').2.trans (h1.home k hk).2⟩
    · intro k hk hlive
      exact h1.live k hk (h2.live k (hk.trans_le h1.nextConn) hlive)
    · intro k
      rcases h2.pid k with hp | hp
      · rcases h1.pid k with hq | hq
        · exact .inl (hp.trans hq)
        · exact .inr (hp ▸ hq)
      · exact .inr hp

/-- The tables lose entries at most. -/
theorem Aged.of_tables {w w' : World} (hn : w'.nextConn = w.nextConn)
    (hc : ∀ port remote c, (w'.connections port).get? remote = some c →
      (w.connections port).get? remote = some c)
    (hh : ∀ c, (w'.heap c).localPort = (w.heap c).localPort ∧
      (w'.heap c).remote = (w.heap c).remote)
    (hp : ∀ c, (w'.heap c).userPid = (w.heap c).userPid ∨ (w'.heap c).userPid < 2 ^ 32) :
    Aged w w' := by
  refine ⟨Nat.le_of_eq hn.symm, fun c _ => hh c, ?_, hp⟩
  intro c _ hlive
  unfold Live at hlive ⊢
  rw [(hh c).1, (hh c).2] at hlive
  exact hc _ _ _ hlive

theorem Received.aged {w w' : World} (h : Received w w') : Aged w w' :=
  .of_tables h.nextConn (fun port remote c hc => by rwa [h.connections] at hc)
    (fun c => ⟨h.localPort c, h.remote c⟩) fun c => .inl (h.userPid c)

theorem Framed.aged {w w' : World} (h : Framed w w') : Aged w w' :=
  .of_tables h.nextConn (fun port remote c hc => by rwa [h.connections] at hc)
    (fun c => ⟨(congrArg Connection.localPort (h.core c) :),
      (congrArg Connection.remote (h.core c) :)⟩)
    fun c => .inl (congrArg Connection.userPid (h.core c) :)

theorem Aged.withConn (w : World) (c : ConnId) (conn : Connection)
    (h : conn.localPort = (w.heap c).localPort ∧ conn.remote = (w.heap c).remote)
    (hp : conn.userPid = (w.heap c).userPid ∨ conn.userPid < 2 ^ 32) : Aged w (w.withConn c conn) := by
  refine .of_tables rfl (fun _ _ _ hc => hc) ?_ ?_
  · intro k
    rw [World.heap_withConn]
    split
    · next hk => rw [hk]; exact h
    · exact ⟨rfl, rfl⟩
  · intro k
    rw [World.heap_withConn]
    split
    · next hk => rw [hk]; exact hp
    · exact .inl rfl

theorem Aged.logged (w : World) (e : TraceEntry) : Aged w (w.logged e) :=
  .of_tables rfl (fun _ _ _ hc => hc) (fun _ => ⟨rfl, rfl⟩) fun _ => .inl rfl

theorem Aged.evicted (w : World) (port : Port) (remote : Remote) :
    Aged w (w.evicted port remote) :=
  .of_tables rfl (fun _ _ _ => World.of_get?_evicted) (fun _ => ⟨rfl, rfl⟩) fun _ => .inl rfl

variable (env : Env)

/-- An entry that a SYN puts into a table leads to a connection that is new. -/
theorem Aged.synReceived (w : World) (port : Port) (remote : Remote) :
    Aged w (w.synReceived env port remote) := by
  have hheap : ∀ c < w.nextConn, (w.synReceived env port remote).heap c = w.heap c := by
    intro c hc
    simp only [World.synReceived, Function.update_of_ne (Nat.ne_of_lt hc)]
  refine ⟨Nat.le_succ _, fun c hc => by rw [hheap c hc]; exact ⟨rfl, rfl⟩, ?_, ?_⟩
  · intro c hc hlive
    unfold Live at hlive ⊢
    rw [hheap c hc] at hlive
    rcases World.of_get?_synReceived hlive with ⟨-, -, hnew⟩ | hold
    · exact absurd hnew (Nat.ne_of_lt hc)
    · exact hold
  · intro c
    simp only [World.synReceived, Function.update_apply]
    split
    · exact .inr (by simp [Connection.new])
    · exact .inl rfl

/-- The PID of a ticket is read from four bytes. -/
theorem extractTicketPayload_pid_lt {cr : Crypto} {ticket : Bytes} {securePid pid : Nat}
    {sessionKey : Bytes}
    (h : Kerberos.extractTicketPayload cr ticket securePid = .ok (sessionKey, pid)) :
    pid < 2 ^ 32 := by
  unfold Kerberos.extractTicketPayload at h
  obtain ⟨plain, -, h⟩ := ok_of_bind h
  split at h
  · cases h
  · cases h
    have hlt := ofLE_lt (plain.take 4)
    have hlen : (plain.take 4).length ≤ 4 := List.length_take_le 4 plain
    exact hlt.trans_le (Nat.pow_le_pow_right (by omega) hlen)

theorem verifyConnect_pid_lt {cr : Crypto} {incoming sessionKey : Bytes} {pid check : Nat}
    (h : Kerberos.verifyConnect cr incoming = .ok (sessionKey, pid, check)) : pid < 2 ^ 32 := by
  unfold Kerberos.verifyConnect at h
  split at h
  · cases h
  obtain ⟨tsize, -, h⟩ := ok_of_bind h
  split at h
  · cases h
  obtain ⟨rsize, -, h⟩ := ok_of_bind h
  dsimp only at h
  split at h
  · cases h
  obtain ⟨ticket, ht, h⟩ := ok_of_bind h
  obtain ⟨reqd, -, h⟩ := ok_of_bind h
  cases h
  exact extractTicketPayload_pid_lt ht

theorem proven_pid_lt {port : Port} {pkt : PRUDPPacket} {sessionKey : Bytes} {pid check : Nat}
    (h : proven env port pkt = some (sessionKey, pid, check)) : pid < 2 ^ 32 := by
  unfold proven at h
  split at h
  · split at h
    · cases h
    · next incoming _ =>
      cases hv : Kerberos.verifyConnect env.crypto incoming with
      | error e =>
        rw [hv] at h
        cases h
      | ok r =>
        rw [hv] at h
        cases h
        exact verifyConnect_pid_lt hv
  · cases h

/-- **One event.** -/
theorem step_aged (e : Event) {w : World} (hw : w.lobby.registry.WellIndexed) :
    Aged w (step env e w) := by
  generalize hw' : step env e w = w'
  have hstep := step_cases env e w
  rw [hw'] at hstep
  cases hstep with
  | still hb hr => exact hr.aged
  | @syn port remote pkt _ ht hq =>
    exact trans_of Aged (Aged.synReceived env w port remote) hq.toQuiet.framed.aged
  | @connect port remote pkt c _ hc hp hq =>
    exact trans_of Aged (Aged.withConn w c (w.established c pkt) ⟨rfl, rfl⟩ (.inl rfl))
      hq.toQuiet.framed.aged
  | @connectAck port remote pkt c sessionKey pid check _ hc hp hq =>
    have h1 := Aged.withConn w c
      { w.established c pkt with sessionKey := sessionKey, userPid := pid } ⟨rfl, rfl⟩
      (.inr (proven_pid_lt env hp))
    exact trans_of Aged (trans_of Aged h1 (Aged.logged _ (.connectAck c))) hq.toQuiet.framed.aged
  | @unhandled _ port c body w1 hb hn hr =>
    exact trans_of Aged hr.aged (Aged.logged w1 (.onPayload port c body))
  | @request _ port c body req w1 hb hreq hr =>
    have ha := request_answered env hw hr port c body req
    exact .of_tables ha.nextConn (fun port remote k hc => by rwa [ha.connections] at hc)
      (fun k => ⟨(congrArg Connection.localPort (ha.identity k) :),
        (congrArg Connection.remote (ha.identity k) :)⟩)
      fun k => .inl (congrArg Connection.userPid (ha.identity k) :)
  | strayDisconnect ht hc => exact Aged.evicted w _ _
  | @disconnect port remote pkt c w1 ht hc hr =>
    have h1 := Aged.withConn w1 c { w1.heap c with state := .closed } ⟨rfl, rfl⟩ (.inl rfl)
    exact trans_of Aged hr.aged (trans_of Aged h1 (Aged.evicted _ port remote))
  | @reap port timeout =>
    generalize staleRemotes w port timeout = remotes
    clear hw' hw
    induction remotes generalizing w with
    | nil => exact refl_of Aged w
    | cons remote remotes ih => exact trans_of Aged (Aged.evicted w port remote) ih
  | @timer id => exact (expire_spec env id w).framed.aged

end Ghostbusters
