import GhostbustersServer.Effects.Moves
import GhostbustersServer.Effects.Sessions
import GhostbustersServer.Guarantees.Sample

/-!
# Who may be in a lobby

Every protocol is registered on both ports, and a handler takes `conn.user_pid` as it
finds it.  It is set on the secure port only; on the auth port it is 0.

    Vouched w        an established connection of the secure port has been acknowledged
    a run whose tickets are good has authenticated players in its lobbies exactly when
    nobody enters one from the auth port                             (players_iff)
-/

namespace Ghostbusters

open Py PRUDPServer

namespace Players

variable (env : Env)

/-- The connect-ack handler has set this PID on a connection of the secure port. -/
def Authenticated (w : World) (pid : Nat) : Prop :=
  pid ≠ 0 ∧ ∃ c, w.Acknowledged c ∧ (w.heap c).localPort = .secure ∧ (w.heap c).userPid = pid

/-- Every CONNECT that the secure port takes proves a ticket for a PID above 0. -/
def Tickets (e : Event) (w : World) : Prop :=
  ∀ remote pkt c, e = .packet .secure remote pkt → Connects w .secure remote pkt c →
    ∃ sessionKey pid check, proven env .secure pkt = some (sessionKey, pid, check) ∧ pid ≠ 0

/-- Whoever enters a lobby does so on the secure port. -/
def FromSecure (e : Event) (w : World) : Prop :=
  ∀ r ∈ requestOf env w e, Enters w r.2.1 r.2.2 → r.1 = .secure

instance (e : Event) (w : World) : Decidable (FromSecure env e w) := by
  unfold FromSecure
  infer_instance

/-! ## Connections -/

/-- **The invariant of the connections.** -/
structure Vouched (w : World) : Prop where
  acked : ∀ c, w.Acknowledged c → c < w.nextConn ∧ (w.heap c).localPort = .secure ∧
    (w.heap c).state ≠ .synRecv ∧ (w.heap c).userPid ≠ 0
  secure : ∀ remote c, (w.connections .secure).get? remote = some c →
    (w.heap c).state = .established → w.Acknowledged c
  auth : ∀ remote c, (w.connections .auth).get? remote = some c → (w.heap c).userPid = 0

/-- One session has changed. -/
theorem Vouched.of_one {w w' : World} (h : Vouched w) (hs : Sound w) {c : ConnId}
    (hn : w'.nextConn = w.nextConn) (ho : OthersSame c w w') (hc : Fewer w w')
    (hport : (w'.heap c).localPort = (w.heap c).localPort)
    (ha : ∀ k ≠ c, w'.Acknowledged k ↔ w.Acknowledged k)
    (hacked : w'.Acknowledged c → c < w.nextConn ∧ (w.heap c).localPort = .secure ∧
      (w'.heap c).state ≠ .synRecv ∧ (w'.heap c).userPid ≠ 0)
    (hsecure : (w.heap c).localPort = .secure → (w'.heap c).state = .established →
      w'.Acknowledged c)
    (hauth : (w.heap c).localPort = .auth → (w'.heap c).userPid = (w.heap c).userPid) :
    Vouched w' where
  acked := by
    intro k hk
    by_cases hkc : k = c
    · subst hkc
      rw [hn, hport]
      exact hacked hk
    · have hid := ho k hkc
      rw [hn, localPort_of_identity hid, state_of_identity hid, userPid_of_identity hid]
      exact h.acked k ((ha k hkc).mp hk)
  secure := by
    intro remote k hm he
    have hold := hc _ _ _ hm
    by_cases hkc : k = c
    · subst hkc
      exact hsecure (hs.home .secure remote k hold).1 he
    · have hid := ho k hkc
      rw [state_of_identity hid] at he
      exact (ha k hkc).mpr (h.secure remote k hold he)
  auth := by
    intro remote k hm
    have hold := hc _ _ _ hm
    by_cases hkc : k = c
    · subst hkc
      rw [hauth (hs.home .auth remote k hold).1]
      exact h.auth remote k hold
    · rw [userPid_of_identity (ho k hkc)]
      exact h.auth remote k hold

/-- A proof comes from the secure port. -/
theorem port_of_proven {port : Port} {pkt : PRUDPPacket} (h : proven env port pkt ≠ none) :
    port = .secure := by
  unfold proven at h
  split at h
  · next hp => exact hp.1
  · exact absurd rfl h

/-- **One event.** -/
theorem step_vouched {e : Event} {w : World} (hs : Sound w) (ht : Tickets env e w)
    (h : Vouched w) : Vouched (step env e w) := by
  have hstep := step_sessions env e hs.indexed
  generalize step env e w = w' at hstep
  cases hstep with
  | same hn hh hc ha =>
    refine ⟨?_, ?_, ?_⟩
    · intro k hk
      rw [hn, localPort_of_identity (hh k), state_of_identity (hh k), userPid_of_identity (hh k)]
      exact h.acked k ((ha k).mp hk)
    · intro remote k hm he
      rw [state_of_identity (hh k)] at he
      exact (ha k).mpr (h.secure remote k (hc _ _ _ hm) he)
    · intro remote k hm
      rw [userPid_of_identity (hh k)]
      exact h.auth remote k (hc _ _ _ hm)
  | @opened port remote pkt _ hsyn hn ho hnew hc ha =>
    refine ⟨?_, ?_, ?_⟩
    · intro k hk
      obtain ⟨hlt, hrest⟩ := h.acked k ((ha k).mp hk)
      have hid := ho k (Nat.ne_of_lt hlt)
      rw [hn, localPort_of_identity hid, state_of_identity hid, userPid_of_identity hid]
      exact ⟨Nat.lt_succ_of_lt hlt, hrest⟩
    · intro remote' k hm he
      rw [hc] at hm
      rcases World.of_get?_synReceived hm with ⟨-, -, rfl⟩ | hold
      · rw [state_of_identity hnew] at he
        simp [World.synReceived] at he
      · rw [state_of_identity (ho k (Nat.ne_of_lt (hs.lt _ _ k hold)))] at he
        exact (ha k).mpr (h.secure remote' k hold he)
    · intro remote' k hm
      rw [hc] at hm
      rcases World.of_get?_synReceived hm with ⟨-, -, rfl⟩ | hold
      · rw [userPid_of_identity hnew]
        simp [World.synReceived, Connection.new]
      · rw [userPid_of_identity (ho k (Nat.ne_of_lt (hs.lt _ _ k hold)))]
        exact h.auth remote' k hold
  | @established port remote pkt c _ hcon hnone hn ho hnew hc ha =>
    have hport := (hs.home port remote c hcon.2.1).1
    refine h.of_one hs hn ho (fun _ _ _ hm => by rwa [hc] at hm)
      ((localPort_of_identity hnew).trans rfl) (fun k _ => ha k) ?_ ?_ fun _ =>
        (userPid_of_identity hnew).trans rfl
    · intro hk
      exact absurd hcon.2.2.1 (h.acked c ((ha c).mp hk)).2.2.1
    · intro hsec _
      have hp : port = .secure := hport.symm.trans hsec
      subst hp
      obtain ⟨key, pid, check, hpr, -⟩ := ht remote pkt c rfl hcon
      cases hnone.symm.trans hpr
  | @proved port remote pkt c sessionKey pid check _ hcon hsome hn ho hnew hc ha =>
    have hp : port = .secure := port_of_proven env (by rw [hsome]; exact Option.some_ne_none _)
    subst hp
    have hport := (hs.home .secure remote c hcon.2.1).1
    obtain ⟨key, pid', check', hpr, hne⟩ := ht remote pkt c rfl hcon
    cases hsome.symm.trans hpr
    refine h.of_one hs hn ho (fun _ _ _ hm => by rwa [hc] at hm)
      ((localPort_of_identity hnew).trans rfl) (fun k hk => by rw [ha]; simp [hk]) ?_
      (fun _ _ => (ha c).mpr (.inr rfl)) fun hauth => by rw [hport] at hauth; cases hauth
    intro _
    rw [state_of_identity hnew, userPid_of_identity hnew]
    exact ⟨hs.lt _ _ c hcon.2.1, hport, ConnState.noConfusion, hne⟩
  | @closed port remote pkt c _ hdis hget hn ho hnew hc ha =>
    refine h.of_one hs hn ho hc ((localPort_of_identity hnew).trans rfl) (fun k _ => ha k) ?_ ?_
      fun _ => (userPid_of_identity hnew).trans rfl
    · intro hk
      obtain ⟨h1, h2, -, h4⟩ := h.acked c ((ha c).mp hk)
      rw [state_of_identity hnew, userPid_of_identity hnew]
      exact ⟨h1, h2, ConnState.noConfusion, h4⟩
    · intro _ he
      rw [state_of_identity hnew] at he
      cases he

/-- Once authenticated, always. -/
theorem authenticated_step {e : Event} {w : World} (hs : Sound w) (h : Vouched w) {pid : Nat}
    (ha : Authenticated w pid) : Authenticated (step env e w) pid := by
  obtain ⟨hne, c, hack, hport, hpid⟩ := ha
  obtain ⟨hlt, -, hstate, -⟩ := h.acked c hack
  have hstep := step_sessions env e hs.indexed
  generalize step env e w = w' at hstep
  have hsame : ∀ {conn : Connection}, (w'.heap c).identity = conn.identity →
      conn.localPort = (w.heap c).localPort → conn.userPid = (w.heap c).userPid →
      w'.Acknowledged c → Authenticated w' pid := by
    intro conn hid h1 h2 hk
    refine ⟨hne, c, hk, ?_, ?_⟩
    · exact ((localPort_of_identity hid).trans h1).trans hport
    · exact ((userPid_of_identity hid).trans h2).trans hpid
  cases hstep with
  | same hn hh hc hk => exact hsame (hh c) rfl rfl ((hk c).mpr hack)
  | opened hsyn hn ho hnew hc hk =>
    exact hsame (ho c (Nat.ne_of_lt hlt)) rfl rfl ((hk c).mpr hack)
  | established hcon hnone hn ho hnew hc hk =>
    refine hsame (ho c ?_) rfl rfl ((hk c).mpr hack)
    rintro rfl
    exact hstate hcon.2.2.1
  | proved hcon hsome hn ho hnew hc hk =>
    refine hsame (ho c ?_) rfl rfl ((hk c).mpr (.inl hack))
    rintro rfl
    exact hstate hcon.2.2.1
  | @closed port remote pkt k _ hdis hget hn ho hnew hc hk =>
    by_cases hkc : c = k
    · subst hkc
      exact hsame hnew rfl rfl ((hk c).mpr hack)
    · exact hsame (ho c hkc) rfl rfl ((hk c).mpr hack)

/-! ## Lobbies -/

/-- **The invariant of a run.** -/
structure Inv (w : World) : Prop where
  sound : Sound w
  vouched : Vouched w
  players : w.lobby.AllPlayers (Authenticated w)

theorem step_inv {e : Event} {w : World} (ht : Tickets env e w) (h : Inv w)
    (hf : FromSecure env e w) : Inv (step env e w) := by
  obtain ⟨op, hp, hop⟩ := step_lobby env e h.sound.indexed
  refine ⟨step_sound env e h.sound, step_vouched env h.sound ht h.vouched, ?_⟩
  have hall := allPlayers_apply env h.sound.indexed hp h.players fun port c req hreq henters => by
    have hport : port = .secure := hf _ hreq henters
    subst hport
    obtain ⟨remote, hget, hstate⟩ := established_of_requestOf env hreq
    have hack := h.vouched.secure remote c hget hstate
    obtain ⟨-, h2, -, h4⟩ := h.vouched.acked c hack
    exact ⟨h4, c, hack, h2, rfl⟩
  rw [hop]
  intro gid g hg
  obtain ⟨h1, h2⟩ := hall gid g hg
  exact ⟨authenticated_step env h.sound h.vouched h1,
    fun p hin => authenticated_step env h.sound h.vouched (h2 p hin)⟩

/-- **The request that breaks it** puts PID 0 into a lobby. -/
theorem not_players_of_auth {e : Event} {w : World} (h : Inv w) (hf : ¬ FromSecure env e w) :
    ¬ (step env e w).lobby.AllPlayers (Authenticated (step env e w)) := by
  unfold FromSecure at hf
  push Not at hf
  obtain ⟨⟨port, c, req⟩, hreq, henters, hport⟩ := hf
  have hauth : port = .auth := by
    cases port with
    | auth => rfl
    | secure => exact absurd rfl hport
  subst hauth
  obtain ⟨remote, hget, -⟩ := established_of_requestOf env hreq
  have hzero : (w.heap c).userPid = 0 := h.vouched.auth remote c hget
  intro hall
  obtain ⟨h1, h2 | ⟨h2, hadm⟩⟩ := henters
  · have hnew := hall _ _ (get_step_create env hreq h.sound.indexed h1 h2)
    exact hnew.1.1 hzero
  · obtain ⟨g, hadm⟩ := Option.isSome_iff_exists.mp hadm
    obtain ⟨p, hp, hpid, -⟩ := GatheringRegistry.exists_joined g.participants
      (w.heap c).userPid (pidName (w.heap c).userPid) (w.heap c).remote c
    have hnew := (hall _ _ (get_step_join env hreq h.sound.indexed h1 h2 hadm)).2 p hp
    exact hnew.1 (hpid.trans hzero)

/-- **Only authenticated players are in lobbies exactly as long as nobody enters one from
the auth port.**  Over every run from a server nobody is connected to, whose tickets are
for PIDs above 0. -/
theorem players_iff (w : World) (hs : Sound w) (hc : ∀ port, w.connections port = Dict.empty)
    (hl : w.lobby = Lobby.empty) (ht : w.trace = []) (es : List Event)
    (hg : Guarded (step env) (Tickets env) es w) :
    (∀ n, (runs (step env) (es.take n) w).lobby.AllPlayers
        (Authenticated (runs (step env) (es.take n) w))) ↔
      Guarded (step env) (FromSecure env) es w := by
  have hstart : Inv w := by
    refine ⟨hs, ⟨?_, ?_, ?_⟩, by rw [hl]; exact Lobby.allPlayers_empty _⟩
    · intro c hack
      unfold World.Acknowledged at hack
      rw [ht] at hack
      cases hack
    · intro remote c hm
      rw [hc] at hm
      cases hm
    · intro remote c hm
      rw [hc] at hm
      cases hm
  exact throughout_iff_guarded_of (P := fun w => w.lobby.AllPlayers (Authenticated w))
    (fun _ h => h.players) (fun _ _ ht h hf => step_inv env ht h hf)
    (fun _ _ _ h hf => not_players_of_auth env h hf) es w hg hstart

/-- A player with a ticket creates a lobby. -/
def ticketLobby : List Event :=
  [.packet .secure (Sample.remote 1) Sample.syn,
   .packet .secure (Sample.remote 1) (Sample.connect Sample.ticketPayload),
   .packet .secure (Sample.remote 1) (Sample.data 1 60 4 [])]

theorem players_iff_ticketLobby :
    (∀ n, (runs (step Sample.env) (ticketLobby.take n) (Sample.world [])).lobby.AllPlayers
        (Authenticated (runs (step Sample.env) (ticketLobby.take n) (Sample.world [])))) ↔
      Guarded (step Sample.env) (FromSecure Sample.env) ticketLobby (Sample.world []) := by
  refine players_iff Sample.env _ (Sample.world_sound []) (fun _ => rfl) rfl rfl ticketLobby
    ⟨?_, ?_, ?_, trivial⟩
  · rintro remote pkt c he ⟨ht, -⟩
    cases he
    cases ht
  · rintro remote pkt c he -
    cases he
    exact ⟨_, _, _, Sample.proven_ticketPayload, by decide⟩
  · rintro remote pkt c he ⟨ht, -⟩
    cases he
    cases ht

/-- A client creates a lobby on the auth port. -/
def authLobby : List Event :=
  [.packet .auth (Sample.remote 1) Sample.syn,
   .packet .auth (Sample.remote 1) (Sample.connect []),
   .packet .auth (Sample.remote 1) (Sample.data 1 60 4 [])]

/-- Its owner is PID 0. -/
theorem not_players_authLobby :
    Guarded (step Sample.env) (Tickets Sample.env) authLobby (Sample.world []) ∧
      ¬ (runs (step Sample.env) authLobby (Sample.world [])).lobby.AllPlayers
        (Authenticated (runs (step Sample.env) authLobby (Sample.world []))) := by
  refine ⟨⟨?_, ?_, ?_, trivial⟩, ?_⟩
  · rintro remote pkt c he
    cases he
  · rintro remote pkt c he
    cases he
  · rintro remote pkt c he
    cases he
  · intro hall
    have howner : ((runs (step Sample.env) authLobby (Sample.world [])).lobby.get 10000).map
        Gathering.ownerPid = some 0 := by
      decide +kernel
    obtain ⟨g, hg, hzero⟩ := Option.map_eq_some_iff.mp howner
    exact (hall 10000 g hg).1.1 hzero

end Players
end Ghostbusters
