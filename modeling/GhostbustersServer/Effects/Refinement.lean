import GhostbustersServer.Effects.Announce
import GhostbustersServer.Py.Runs

/-!
# The server refines the lobby machine

    step_sound     the tables and the registry stay well formed
    step_lobby     a step makes one move of the lobby machine, guarded by its event
    step_log       what it may log
    runs_lobby     what every guarded move preserves holds of the lobbies of every run
-/

namespace Ghostbusters

open Py Act PRUDPServer

/-- What a request leaves of its connection, and of every other. -/
def Connection.identity (conn : Connection) : Connection := conn.core.session

/-! ## Moves keep the registry indexed -/

namespace Lobby

/-- A move that only edits lobbies in place. -/
theorem WellIndexed.update {l : Lobby} (h : l.registry.WellIndexed) (gid : Nat)
    (f : Gathering → Gathering) (hf : ∀ g, (f g).id = g.id ∧ (f g).ownerPid = g.ownerPid) :
    (l.update gid f).registry.WellIndexed :=
  GatheringRegistry.WellIndexed.update h gid f hf

theorem snapshot_same (g : Gathering) :
    (Game.snapshot g).id = g.id ∧ (Game.snapshot g).ownerPid = g.ownerPid := by
  unfold Game.snapshot
  split <;> exact ⟨rfl, rfl⟩

theorem WellIndexed.disarm {l : Lobby} (h : l.registry.WellIndexed) (gid : Nat) :
    (l.disarm gid).registry.WellIndexed := by
  unfold Lobby.disarm
  split
  · exact h
  · exact h.update gid _ fun _ => ⟨rfl, rfl⟩

theorem WellIndexed.arm {l : Lobby} (h : l.registry.WellIndexed) (port : Port) (gid : Nat) :
    (l.arm port gid).registry.WellIndexed := by
  unfold Lobby.arm
  split
  · exact h
  · split
    · exact h
    · exact h.update gid _ fun _ => ⟨rfl, rfl⟩

theorem WellIndexed.fire {l : Lobby} (h : l.registry.WellIndexed) (gid : Nat) (clear : Bool) :
    (l.fire gid clear).registry.WellIndexed := by
  unfold Lobby.fire
  split
  · exact WellIndexed.update (WellIndexed.disarm h gid) gid _ fun _ => ⟨rfl, rfl⟩
  · exact WellIndexed.disarm h gid

theorem WellIndexed.addReport {l : Lobby} (h : l.registry.WellIndexed) (gid pid : Nat) :
    (l.addReport gid pid).registry.WellIndexed :=
  WellIndexed.update (WellIndexed.update h gid _ snapshot_same) gid _ fun _ => ⟨rfl, rfl⟩

theorem WellIndexed.report {l : Lobby} (h : l.registry.WellIndexed) (port : Port) (pid : Nat)
    (arm clear : Bool) : (l.report port pid arm clear).registry.WellIndexed := by
  unfold Lobby.report
  split
  · exact h
  · next g _ =>
    have hr := WellIndexed.addReport h g.id pid
    split
    · exact hr
    · split
      · exact WellIndexed.fire hr g.id clear
      · split
        · exact WellIndexed.arm hr port g.id
        · exact hr

theorem WellIndexed.expire {l : Lobby} (h : l.registry.WellIndexed) (id : TimerId) (clear : Bool) :
    (l.expire id clear).registry.WellIndexed := by
  unfold Lobby.expire
  split
  · exact h
  · next t _ =>
    unfold Lobby.timedOut
    split
    · exact h
    · split
      · exact WellIndexed.update h t.gatheringId _ fun _ => ⟨rfl, rfl⟩
      · exact WellIndexed.fire (l := l.forget id) h t.gatheringId clear

end Lobby

theorem LobbyOp.wellIndexed_apply (op : LobbyOp) (l : Lobby) (h : l.registry.WellIndexed) :
    (op.apply l).registry.WellIndexed := by
  cases op with
  | idle => exact h
  | create pid remote raw conn => exact h.create pid remote raw (some conn)
  | join gid pid name remote conn => exact h.addParticipant gid pid name remote (some conn)
  | leave gid pid => exact h.removeParticipant gid pid
  | destroy gid => exact h.destroy gid
  | close gid => exact (h.setClosed gid true).update gid _ Lobby.snapshot_same
  | reopen gid => exact h.setClosed gid false
  | report port pid arm clear => exact Lobby.WellIndexed.report h port pid arm clear
  | cancel gid =>
    exact Lobby.WellIndexed.update (Lobby.WellIndexed.disarm h gid) gid _ fun _ => ⟨rfl, rfl⟩
  | expire id clear => exact Lobby.WellIndexed.expire h id clear
  | gone remotes =>
    show (remotes.foldl Lobby.closeRemote l).registry.WellIndexed
    induction remotes generalizing l with
    | nil => exact h
    | cons remote remotes ih => exact ih _ (Lobby.WellIndexed.closeRemote h remote)

variable (env : Env)

/-! ## Requests -/

theorem hostUrls_congr {w w' : World} (h : ∀ k, (w'.heap k).stationUrls = (w.heap k).stationUrls)
    (g : Gathering) : Game.hostUrls w' g = Game.hostUrls w g := by
  unfold Game.hostUrls
  split
  · exact h _
  · rfl

theorem admitted_congr {w w' : World} (hl : w'.lobby = w.lobby)
    (hu : ∀ k, (w'.heap k).stationUrls = (w.heap k).stationUrls) (pid : Nat) (req : Request) :
    Game.admitted w' pid req = Game.admitted w pid req := by
  unfold Game.admitted
  rw [hl]
  simp only [hostUrls_congr hu]

/-- A move does not see what a packet that delivers nothing changes. -/
theorem Performs.of_received {w w1 w' : World} {port : Port} {c : ConnId} {req : Request}
    {op : LobbyOp} (hl : w1.lobby = w.lobby) (hs : ∀ k, (w1.heap k).session = (w.heap k).session)
    (h : Performs env w1 port c req w' op) : Performs env w port c req w' op := by
  have hpid : (w1.heap c).userPid = (w.heap c).userPid :=
    (congrArg Connection.userPid (hs c) :)
  have hremote : (w1.heap c).remote = (w.heap c).remote := (congrArg Connection.remote (hs c) :)
  have hurls : ∀ k, (w1.heap k).stationUrls = (w.heap k).stationUrls := fun k =>
    (congrArg Connection.stationUrls (hs k) :)
  cases h with
  | idle => exact .idle
  | create h1 h2 =>
    rw [hpid, hremote]
    exact .create h1 h2
  | join g h1 h2 h3 =>
    rw [hpid] at h3 ⊢
    rw [hremote]
    rw [admitted_congr hl hurls] at h3
    exact .join g h1 h2 h3
  | leave h1 h2 =>
    rw [hpid]
    exact .leave h1 h2
  | destroy g h1 h2 h3 h4 =>
    rw [hl] at h3
    rw [hpid] at h4
    exact .destroy g h1 h2 h3 h4
  | close h1 h2 h3 => exact .close h1 h2 h3
  | reopen h1 h2 h3 => exact .reopen h1 h2 h3
  | report clear h1 h2 h3 h4 =>
    rw [hpid]
    exact .report clear h1 h2 h3 h4
  | cancel g h1 h2 h3 =>
    rw [hl, hpid] at h3
    exact .cancel g h1 h2 h3

/-- **A request that is delivered**, from the packet to the answer. -/
structure Answered (w : World) (port : Port) (c : ConnId) (body : Bytes) (req : Request)
    (w' : World) : Prop where
  identity : ∀ k, (w'.heap k).identity = (w.heap k).identity
  nextConn : w'.nextConn = w.nextConn
  connections : w'.connections = w.connections
  log : LogGrows (fun e => RequestLog w c req e ∨ e = .onPayload port c body) w w'
  lobby : ∃ op, Performs env w port c req w' op ∧ w'.lobby = op.apply w.lobby

theorem request_answered {w w1 : World} (hw : w.lobby.registry.WellIndexed) (hr : Received w w1)
    (port : Port) (c : ConnId) (body : Bytes) (req : Request) :
    Answered env w port c body req
      ((RMCDispatcher.respond env port c req >>= RMCDispatcher.send env port c).after
        (w1.logged (.onPayload port c body))) := by
  let w2 := w1.logged (.onPayload port c body)
  have hl : w2.lobby = w.lobby := hr.lobby
  have hh := respond_handled env w2 port c req (by rw [hl]; exact hw)
  obtain ⟨hf, hlog, op, hp, hop⟩ := hh.trans_quiet env (respond_send_after env port c req w2).toQuiet
  have hpid : (w2.heap c).userPid = (w.heap c).userPid := hr.userPid c
  refine ⟨?_, hf.nextConn.trans hr.nextConn, hf.connections.trans hr.connections, ?_, op,
    Performs.of_received env hl hr.session hp, by rw [hop, hl]⟩
  · intro k
    have h1 : (w2.heap k).session = (w.heap k).session := hr.session k
    have h2 := congrArg Connection.core h1
    have h3 := congrArg Connection.session (hf.core k)
    exact h3.trans h2
  · have h1 : LogGrows (fun e => RequestLog w c req e ∨ e = .onPayload port c body) w w1 :=
      hr.sends.mono fun _ he => .inl (.inl (.inl he))
    have h2 : LogGrows (fun e => RequestLog w c req e ∨ e = .onPayload port c body) w1 w2 :=
      ⟨[_], rfl, by simp⟩
    refine (h1.trans h2).trans (hlog.mono fun e he => .inl ?_)
    unfold RequestLog at he ⊢
    rw [hl, hpid] at he
    exact he

/-! ## Timers -/

/-- An expired timer that finds its lobby fires the batch, or finds nothing to fire. -/
structure Expired (id : TimerId) (w w' : World) : Prop where
  framed : Framed w w'
  log : LogGrows (fun e => e.IsCalm ∨ ∃ gid roster, e = .statsBatch gid .timeout roster) w w'
  lobby : ∃ clear, w'.lobby = w.lobby.expire id clear ∧ (clear = true ∨ Failed env w')
  fires : ∀ t g, (w.lobby.timers.find? fun t => t.id == id) = some t →
    w.lobby.get t.gatheringId = some g →
    ¬ (g.receivedM12Pids = ∅ ∨ g.expectedM12Pids ⊆ g.receivedM12Pids) →
    ∃ rest, w'.trace = w.trace ++ .statsBatch t.gatheringId .timeout g.pids :: rest

theorem expire_spec (id : TimerId) (w : World) : Expired env id w ((expire env id).after w) := by
  unfold expire after
  rw [run_get_bind]
  cases ht : w.lobby.timers.find? fun t => t.id == id with
  | none =>
    refine ⟨refl_of Framed w, .refl _ w, ⟨true, by simp [Lobby.expire, ht], .inl rfl⟩, ?_⟩
    intro t g h
    rw [ht] at h
    cases h
  | some t =>
    let w1 := w.withLobby (w.lobby.forget id)
    have hrun : (Srv.modifyLobby (fun l => { l with
          timers := l.timers.filter fun t => t.id != id }) >>= fun _ =>
        Game.onM12Timeout env t.port t.gatheringId).run w =
        (Game.onM12Timeout env t.port t.gatheringId).run w1 := rfl
    have hexp : ∀ clear, w.lobby.expire id clear =
        (w.lobby.forget id).timedOut t.gatheringId clear := by
      intro clear
      unfold Lobby.expire
      rw [ht]
    simp only
    rw [hrun]
    unfold Game.onM12Timeout
    rw [run_get_bind]
    cases hg : w1.lobby.get t.gatheringId with
    | none =>
      refine ⟨framed_withLobby w _, .of_same rfl, ⟨true, ?_, .inl rfl⟩, ?_⟩
      · rw [hexp, Lobby.timedOut, show (w.lobby.forget id).get t.gatheringId = none from hg]
        rfl
      · intro t' g' ht' hg'
        rw [ht] at ht'
        cases ht'
        rw [show w.lobby.get t.gatheringId = none from hg] at hg'
        cases hg'
    | some g =>
      have hg' : (w.lobby.forget id).get t.gatheringId = some g := hg
      simp only
      by_cases hearly : g.receivedM12Pids = ∅ ∨ g.expectedM12Pids ⊆ g.receivedM12Pids
      · rw [if_pos hearly]
        refine ⟨framed_withLobby w _, .of_same rfl, ⟨true, ?_, .inl rfl⟩, ?_⟩
        · rw [hexp, Lobby.timedOut, hg']
          simp only [if_pos hearly]
          rfl
        · intro t' g'' ht' hg'' hn
          rw [ht] at ht'
          cases ht'
          rw [show w.lobby.get t.gatheringId = some g from hg] at hg''
          cases hg''
          exact absurd hearly hn
      · rw [if_neg hearly]
        obtain ⟨hf, hlog, hfirst, clear, hl, hc⟩ := Game.fire_spec env t.port t.gatheringId .timeout
          w1 g hg fun h => hearly (.inl h)
        refine ⟨trans_of Framed (framed_withLobby w _) hf, ?_, ⟨clear, ?_, hc⟩, ?_⟩
        · refine LogGrows.trans (.of_same rfl) (hlog.mono fun e he => ?_)
          exact he.imp (fun h => h) fun h => ⟨_, _, h⟩
        · rw [hexp, Lobby.timedOut, hg']
          simp only [if_neg hearly]
          exact hl
        · intro t' g'' ht' hg'' _
          rw [ht] at ht'
          cases ht'
          rw [show w.lobby.get t.gatheringId = some g from hg] at hg''
          cases hg''
          exact hfirst

/-! ## Steps -/

/-- The tables hold connections of their port, by remote, and the registry is indexed. -/
structure Sound (w : World) : Prop where
  lt : ∀ port remote c, (w.connections port).get? remote = some c → c < w.nextConn
  home : ∀ port remote c, (w.connections port).get? remote = some c →
    (w.heap c).localPort = port ∧ (w.heap c).remote = remote
  indexed : w.lobby.registry.WellIndexed

/-- The remotes whose close hooks an event runs, if it runs any. -/
def closing (w : World) : Event → List Remote
  | .packet _ remote pkt => if pkt.type = .disconnect then [remote] else []
  | .reap port timeout => staleRemotes w port timeout
  | _ => []

/-- The move of the lobby machine that an event, handled in `w`, makes on the way
to `w'`. -/
inductive StepPerforms (w : World) (e : Event) (w' : World) : LobbyOp → Prop where
  | idle : requestOf env w e = none → StepPerforms w e w' .idle
  | request {port c req op} : requestOf env w e = some (port, c, req) →
      Performs env w port c req w' op → StepPerforms w e w' op
  | gone : StepPerforms w e w' (.gone (closing w e))
  | expire {id clear} : e = .timer id → clear = true ∨ Failed env w' →
      StepPerforms w e w' (.expire id clear)

theorem requestOf_none {w : World} {e : Event} (h : bodyOf env w e = none) :
    requestOf env w e = none := by
  unfold requestOf
  rw [h]

theorem lobby_foldl_evicted (port : Port) (remotes : List Remote) (w : World) :
    (remotes.foldl (fun w remote => w.evicted port remote) w).lobby =
      remotes.foldl Lobby.closeRemote w.lobby := by
  induction remotes generalizing w with
  | nil => rfl
  | cons remote remotes ih => exact ih (w.evicted port remote)

/-- **Refinement.** -/
theorem Stepped.lobby {w w' : World} {e : Event} (hw : w.lobby.registry.WellIndexed)
    (h : Stepped env w e w') : ∃ op, StepPerforms env w e w' op ∧ w'.lobby = op.apply w.lobby := by
  have hpacket : ∀ {port remote pkt}, pkt.type ≠ .data →
      requestOf env w (.packet port remote pkt) = none := by
    intro port remote pkt ht
    apply requestOf_none
    cases hb : bodyOf env w (.packet port remote pkt) with
    | none => rfl
    | some b =>
      obtain ⟨port', c, body⟩ := b
      obtain ⟨remote', pkt', he, ht', -⟩ := bodyOf_eq_some env hb
      cases he
      exact absurd ht' ht
  cases h with
  | still hb hr => exact ⟨.idle, .idle (requestOf_none env hb), hr.lobby⟩
  | syn ht hq => exact ⟨.idle, .idle (hpacket (by rw [ht]; decide)), hq.lobby⟩
  | connect hc hp hq => exact ⟨.idle, .idle (hpacket (by rw [hc.1]; decide)), hq.lobby⟩
  | connectAck hc hp hq => exact ⟨.idle, .idle (hpacket (by rw [hc.1]; decide)), hq.lobby⟩
  | unhandled hb hn hr => exact ⟨.idle, .idle hn, hr.lobby⟩
  | request hb hreq hr =>
    obtain ⟨op, hp, hl⟩ := (request_answered env hw hr _ _ _ _).lobby
    exact ⟨op, .request hreq hp, hl⟩
  | strayDisconnect ht hc =>
    refine ⟨_, .gone, ?_⟩
    rw [closing, if_pos ht]
    rfl
  | disconnect ht hc hr =>
    refine ⟨_, .gone, ?_⟩
    rw [closing, if_pos ht]
    exact congrArg (fun l : Lobby => l.closeRemote _) hr.lobby
  | reap => exact ⟨_, .gone, lobby_foldl_evicted _ _ w⟩
  | timer =>
    obtain ⟨clear, hl, hc⟩ := (expire_spec env _ w).lobby
    exact ⟨_, .expire rfl hc, hl⟩

theorem step_lobby (e : Event) {w : World} (hw : w.lobby.registry.WellIndexed) :
    ∃ op, StepPerforms env w e (step env e w) op ∧ (step env e w).lobby = op.apply w.lobby :=
  (step_cases env e w).lobby env hw

/-- Everything that an event may log. -/
inductive StepLogs (w : World) (e : Event) : TraceEntry → Prop where
  | send {x} : x.IsSend → StepLogs w e x
  | connectAck (c : ConnId) : StepLogs w e (.connectAck c)
  | onPayload (port : Port) (c : ConnId) (body : Bytes) : StepLogs w e (.onPayload port c body)
  | closeHooks (port : Port) (remote : Remote) : StepLogs w e (.closeHooks port remote)
  | request {port c req x} : requestOf env w e = some (port, c, req) → RequestLog w c req x →
      StepLogs w e x
  | timer {id x} : e = .timer id → (x.IsCalm ∨ ∃ gid roster, x = .statsBatch gid .timeout roster) →
      StepLogs w e x

theorem logGrows_logged {K : TraceEntry → Prop} (w : World) {x : TraceEntry} (h : K x) :
    LogGrows K w (w.logged x) := ⟨[x], rfl, by simpa using h⟩

theorem logGrows_foldl_evicted {K : TraceEntry → Prop}
    (hK : ∀ port remote, K (.closeHooks port remote)) (port : Port) (remotes : List Remote)
    (w : World) : LogGrows K w (remotes.foldl (fun w remote => w.evicted port remote) w) := by
  induction remotes generalizing w with
  | nil => exact .refl _ w
  | cons remote remotes ih =>
    have hone : LogGrows K w (w.evicted port remote) :=
      ⟨[.closeHooks port remote], rfl, by simpa using hK port remote⟩
    exact hone.trans (ih _)

/-- **The log of one event.** -/
theorem step_log (e : Event) {w : World} (hw : w.lobby.registry.WellIndexed) :
    LogGrows (StepLogs env w e) w (step env e w) := by
  generalize hw' : step env e w = w'
  have hstep := step_cases env e w
  rw [hw'] at hstep
  have hsends : ∀ {a b : World}, LogGrows TraceEntry.IsSend a b → LogGrows (StepLogs env w e) a b :=
    fun h => h.mono fun _ => .send
  have hevict : ∀ (port : Port) (remotes : List Remote) (a : World), LogGrows (StepLogs env w e) a
      (remotes.foldl (fun w remote => w.evicted port remote) a) := fun port remotes a =>
    logGrows_foldl_evicted .closeHooks port remotes a
  cases hstep with
  | still hb hr => exact hsends hr.sends
  | syn ht hq => exact LogGrows.trans (.of_same rfl) (hsends hq.sends)
  | connect hc hp hq => exact LogGrows.trans (.of_same rfl) (hsends hq.sends)
  | @connectAck port remote pkt c sessionKey pid check _ hc hp hq =>
    exact LogGrows.trans (logGrows_logged (w.withConn c _) (.connectAck c)) (hsends hq.sends)
  | @unhandled _ port c body w1 hb hn hr =>
    exact (hsends hr.sends).trans (logGrows_logged w1 (.onPayload port c body))
  | @request _ port c body req w1 hb hreq hr =>
    refine (request_answered env hw hr port c body req).log.mono ?_
    rintro x (hx | rfl)
    · exact .request hreq hx
    · exact .onPayload port c body
  | @strayDisconnect port remote pkt ht hc => exact hevict port [remote] w
  | @disconnect port remote pkt c w1 ht hc hr =>
    exact (hsends hr.sends).trans (LogGrows.trans (.of_same rfl) (hevict port [remote] _))
  | reap => exact hevict _ _ w
  | @timer id => exact (expire_spec env id w).log.mono fun _ hx => .timer rfl hx

/-- The log only grows. -/
theorem step_grows (e : Event) {w : World} (hw : w.lobby.registry.WellIndexed) :
    LogGrows (fun _ => True) w (step env e w) :=
  (step_log env e hw).mono fun _ _ => trivial

theorem step_indexed (e : Event) {w : World} (hw : w.lobby.registry.WellIndexed) :
    (step env e w).lobby.registry.WellIndexed := by
  obtain ⟨op, -, hop⟩ := step_lobby env e hw
  rw [hop]
  exact op.wellIndexed_apply _ hw

/-- **Invariants of the lobbies.**  What every move that an event may make
preserves holds of the lobbies of every run. -/
theorem runs_lobby {I : Lobby → Prop}
    (h : ∀ w e w' op, w.lobby.registry.WellIndexed → StepPerforms env w e w' op → I w.lobby →
      I (op.apply w.lobby)) (es : List Event) (w : World) (hw : w.lobby.registry.WellIndexed)
    (hI : I w.lobby) :
    (runs (step env) es w).lobby.registry.WellIndexed ∧ I (runs (step env) es w).lobby := by
  refine runs_preserves (I := fun w => w.lobby.registry.WellIndexed ∧ I w.lobby) ?_ es w ⟨hw, hI⟩
  rintro e w ⟨hw, hI⟩
  refine ⟨step_indexed env e hw, ?_⟩
  obtain ⟨op, hp, hop⟩ := step_lobby env e hw
  rw [hop]
  exact h w e _ op hw hp hI

/-- A state with the same tables, and the same addresses in them. -/
theorem Sound.of_same {w w' : World} (h : Sound w) (hn : w'.nextConn = w.nextConn)
    (hc : w'.connections = w.connections)
    (hh : ∀ k, (w'.heap k).localPort = (w.heap k).localPort ∧
      (w'.heap k).remote = (w.heap k).remote)
    (hi : w'.lobby.registry.WellIndexed) : Sound w' where
  lt := by
    intro port remote c hm
    rw [hc] at hm
    rw [hn]
    exact h.lt port remote c hm
  home := by
    intro port remote c hm
    rw [hc] at hm
    rw [(hh c).1, (hh c).2]
    exact h.home port remote c hm
  indexed := hi

theorem Sound.evicted {w : World} (h : Sound w) (port : Port) (remote : Remote) :
    Sound (w.evicted port remote) := by
  refine ⟨?_, ?_, Lobby.WellIndexed.closeRemote h.indexed remote⟩
  · intro port' remote' c hm
    exact h.lt port' remote' c (World.of_get?_evicted hm)
  · intro port' remote' c hm
    exact h.home port' remote' c (World.of_get?_evicted hm)

theorem Sound.synReceived {w : World} (h : Sound w) (port : Port) (remote : Remote) :
    Sound (w.synReceived env port remote) := by
  refine ⟨?_, ?_, h.indexed⟩
  · intro port' remote' c hm
    rcases World.of_get?_synReceived hm with ⟨-, -, rfl⟩ | hm
    · exact Nat.lt_succ_self _
    · exact Nat.lt_succ_of_lt (h.lt port' remote' c hm)
  · intro port' remote' c hm
    rcases World.of_get?_synReceived hm with ⟨rfl, rfl, rfl⟩ | hm
    · simp [World.synReceived, Connection.new]
    · have hne : c ≠ w.nextConn := Nat.ne_of_lt (h.lt port' remote' c hm)
      simp only [World.synReceived, Function.update_of_ne hne]
      exact h.home port' remote' c hm

/-- A connection object that keeps its addresses. -/
theorem Sound.withConn {w : World} (h : Sound w) (c : ConnId) (conn : Connection)
    (hc : conn.localPort = (w.heap c).localPort ∧ conn.remote = (w.heap c).remote) :
    Sound (w.withConn c conn) := by
  refine h.of_same rfl rfl ?_ h.indexed
  intro k
  rw [World.heap_withConn]
  split
  · next hk => rw [hk]; exact hc
  · exact ⟨rfl, rfl⟩

theorem Sound.logged {w : World} (h : Sound w) (e : TraceEntry) : Sound (w.logged e) :=
  h.of_same rfl rfl (fun _ => ⟨rfl, rfl⟩) h.indexed

theorem Sound.of_core {w w' : World} (h : Sound w) (hn : w'.nextConn = w.nextConn)
    (hc : w'.connections = w.connections) (hh : ∀ k, (w'.heap k).identity = (w.heap k).identity)
    (hi : w'.lobby.registry.WellIndexed) : Sound w' :=
  h.of_same hn hc (fun k => ⟨(congrArg Connection.localPort (hh k) :),
    (congrArg Connection.remote (hh k) :)⟩) hi

theorem Sound.quiet {w w' : World} (h : Sound w) (hq : Quiet w w') : Sound w' :=
  h.of_core hq.nextConn hq.connections (fun k => congrArg Connection.session (hq.core k))
    (by rw [hq.lobby]; exact h.indexed)

theorem Sound.received {w w' : World} (h : Sound w) (hr : Received w w') : Sound w' :=
  h.of_same hr.nextConn hr.connections (fun k => ⟨hr.localPort k, hr.remote k⟩)
    (by rw [hr.lobby]; exact h.indexed)

theorem Sound.foldl_evicted {w : World} (h : Sound w) (port : Port) (remotes : List Remote) :
    Sound (remotes.foldl (fun w remote => w.evicted port remote) w) := by
  induction remotes generalizing w with
  | nil => exact h
  | cons remote remotes ih => exact ih (h.evicted port remote)

theorem step_sound (e : Event) {w : World} (h : Sound w) : Sound (step env e w) := by
  have hi := step_indexed env e h.indexed
  generalize hw' : step env e w = w' at hi ⊢
  have hstep := step_cases env e w
  rw [hw'] at hstep
  cases hstep with
  | still hb hr => exact h.received hr
  | syn ht hq => exact (h.synReceived env _ _).quiet hq.toQuiet
  | @connect port remote pkt c _ hc hp hq =>
    exact (h.withConn c (w.established c pkt) ⟨rfl, rfl⟩).quiet hq.toQuiet
  | @connectAck port remote pkt c sessionKey pid check _ hc hp hq =>
    have h1 := h.withConn c { w.established c pkt with sessionKey := sessionKey, userPid := pid }
      ⟨rfl, rfl⟩
    exact (h1.logged _).quiet hq.toQuiet
  | unhandled hb hn hr => exact (h.received hr).logged _
  | @request _ port c body req w1 hb hreq hr =>
    have ha := request_answered env h.indexed hr port c body req
    exact h.of_core ha.nextConn ha.connections ha.identity hi
  | strayDisconnect ht hc => exact h.evicted _ _
  | @disconnect port remote pkt c w1 ht hc hr =>
    have h1 := (h.received hr).withConn c { w1.heap c with state := .closed } ⟨rfl, rfl⟩
    exact h1.evicted port remote
  | reap => exact h.foldl_evicted _ _
  | @timer id =>
    have hf := (expire_spec env id w).framed
    exact h.of_core hf.nextConn hf.connections
      (fun k => congrArg Connection.session (hf.core k)) hi

/-- A request comes from a connection in the table of its port. -/
theorem Sound.of_requestOf {w : World} (h : Sound w) {e : Event} {port : Port} {c : ConnId}
    {req : Request} (hreq : requestOf env w e = some (port, c, req)) :
    c < w.nextConn ∧ (w.heap c).localPort = port ∧
      (w.connections port).get? (w.heap c).remote = some c := by
  unfold requestOf at hreq
  split at hreq
  · cases hreq
  · next hb =>
    obtain ⟨remote, pkt, -, -, hc, -⟩ := bodyOf_eq_some env hb
    split at hreq
    · cases hreq
      obtain ⟨hport, hremote⟩ := h.home _ remote c hc
      exact ⟨h.lt _ remote c hc, hport, by rw [hremote]; exact hc⟩
    · cases hreq

end Ghostbusters
