import GhostbustersServer.Guarantees.Sample

/-!
# Closes on the auth port

The hooks of both ports are the same and look for a remote, not for a connection.  A
client that uses one socket towards both ports has one remote on both, and closing its
auth connection closes its lobbies.

    the registry stays as it is through an auth-port close exactly when no lobby
    knows a remote that is closed                                  (unmoved_iff)
-/

namespace Ghostbusters

open Py PRUDPServer

namespace Ports

variable (env : Env)

/-- A DISCONNECT, or a visit of the reaper, on the auth port. -/
def AuthClose (e : Event) : Prop :=
  (∃ remote pkt, e = .packet .auth remote pkt ∧ pkt.type = .disconnect) ∨
    ∃ timeout, e = .reap .auth timeout

/-- All lobbies and their participants belong to connections of the secure port. -/
def SecureOnly (w : World) : Prop :=
  ∀ g ∈ w.lobby.registry.allGatherings,
    (∃ c ∈ g.hostConn, (w.heap c).localPort = .secure) ∧
    ∀ p ∈ g.participants, ∃ c ∈ p.conn, (w.heap c).localPort = .secure

instance (w : World) : Decidable (SecureOnly w) := by
  unfold SecureOnly
  infer_instance

/-- The remotes that the hooks run for: not that of a connection whose DISCONNECT
cannot be acknowledged. -/
def hooked (w : World) : Event → List Remote
  | .packet port remote pkt =>
    if pkt.type = .disconnect ∧ ∀ c ∈ (w.connections port).get? remote,
        env.packetEncodes (ackPacket (w.heap c) .disconnect pkt.packetId) then [remote]
    else []
  | .reap port timeout => staleRemotes w port timeout
  | _ => []

/-- An auth-port close leaves the lobbies of the secure port alone. -/
def Unmoved (e : Event) (w : World) : Prop :=
  AuthClose e → SecureOnly w → (step env e w).lobby.registry = w.lobby.registry

/-- It is for remotes that none of them knows. -/
def Apart (e : Event) (w : World) : Prop :=
  AuthClose e → SecureOnly w → ¬ w.lobby.Knows (hooked env w e)

theorem lobby_disconnect (port : Port) (remote : Remote) {pkt : PRUDPPacket} (w : World)
    (ht : pkt.type = .disconnect) :
    (step env (.packet port remote pkt) w).lobby =
      (hooked env w (.packet port remote pkt)).foldl Lobby.closeRemote w.lobby := by
  have hooks : hooked env w (.packet port remote pkt) =
      if pkt.type = .disconnect ∧ ∀ c ∈ (w.connections port).get? remote,
        env.packetEncodes (ackPacket (w.heap c) .disconnect pkt.packetId) then [remote]
      else [] := rfl
  rw [hooks]
  cases hc : (w.connections port).get? remote with
  | none =>
    rw [if_pos ⟨ht, fun c hm => by cases hm⟩]
    have hstep : step env (.packet port remote pkt) w = w.evicted port remote := by
      unfold step handleEvent handle Act.after
      rw [Act.run_get_bind]
      dsimp only
      rw [ht, hc]
      rfl
    rw [hstep]
    rfl
  | some c =>
    have hstep := step_packet env hc pkt
    rw [ht] at hstep
    simp only at hstep
    rw [hstep, handleDisconnect_spec]
    by_cases he : env.packetEncodes (ackPacket (w.heap c) .disconnect pkt.packetId) = true
    · rw [if_pos he, if_pos ⟨ht, fun k hk => by cases hk; exact he⟩]
      rfl
    · rw [if_neg he, if_neg fun h => he (h.2 c rfl)]
      rfl

theorem lobby_close {e : Event} (h : AuthClose e) (w : World) :
    (step env e w).lobby = (hooked env w e).foldl Lobby.closeRemote w.lobby := by
  rcases h with ⟨remote, pkt, rfl, ht⟩ | ⟨timeout, rfl⟩
  · exact lobby_disconnect env .auth remote w ht
  · have hstep : step env (.reap .auth timeout) w =
        (staleRemotes w .auth timeout).foldl (fun w remote => w.evicted .auth remote) w :=
      reapIdle_spec .auth timeout w
    rw [hstep, lobby_foldl_evicted]
    rfl

/-- **The auth port leaves the lobbies alone exactly as long as what it closes shares no
remote with them**, in every state of every run. -/
theorem unmoved_iff (w : World) (hs : Sound w) (es : List Event) :
    Guarded (step env) (Unmoved env) es w ↔ Guarded (step env) (Apart env) es w := by
  refine guarded_congr (fun e w h => step_sound env e h) (fun e w h => ?_) es w hs
  refine forall_congr' fun hclose => forall_congr' fun _ => ?_
  rw [lobby_close env hclose]
  exact Lobby.gone_eq_self_iff h.indexed _

/-- One socket towards both ports: a login on the auth port, a lobby on the secure one. -/
def oneSocket : World :=
  Sample.world [Sample.connection .auth 1 0, Sample.connection .secure 1 10000]

/-- The lobby is created, and the auth connection is closed. -/
def loginCloses : List Event :=
  [.packet .secure (Sample.remote 1) (Sample.data 1 60 4 []),
   .packet .auth (Sample.remote 1) { type := .disconnect }]

theorem unmoved_iff_oneSocket :
    Guarded (step Sample.env) (Unmoved Sample.env) loginCloses oneSocket ↔
      Guarded (step Sample.env) (Apart Sample.env) loginCloses oneSocket :=
  unmoved_iff Sample.env oneSocket (Sample.world_sound _) loginCloses

/-- The login's close takes the lobby with it. -/
theorem not_unmoved_oneSocket :
    ¬ Guarded (step Sample.env) (Unmoved Sample.env) loginCloses oneSocket := by
  rintro ⟨-, h, -⟩
  have hsecure : SecureOnly (step Sample.env
      (.packet .secure (Sample.remote 1) (Sample.data 1 60 4 [])) oneSocket) := by
    decide +kernel
  have hsame := h (.inl ⟨_, _, rfl, rfl⟩) hsecure
  have hcount := congrArg (fun reg => reg.allGatherings.length) hsame
  revert hcount
  decide +kernel

end Ports
end Ghostbusters
