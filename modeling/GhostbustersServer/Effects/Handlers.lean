import GhostbustersServer.Effects.LobbyMachine
import GhostbustersServer.Effects.Primitives

/-!
# What each handler does to the lobbies

One spec lemma for each handler that touches the lobbies, and for the whole of a
request (`respond_spec`): the connections keep their sessions, the lobbies make
the move `Performs` allows, and a batch is logged only when the reports are in.
-/

namespace Ghostbusters

open Py Act

def World.withLobby (w : World) (l : Lobby) : World := { w with lobby := l }

/-- A push could not be sent, or the database cannot be read. -/
def Failed (env : Env) (w : World) : Prop :=
  (∃ port c r, TraceEntry.sendFailed port c (.request r) ∈ w.trace) ∨ ∃ n, env.readFails n = true

theorem framed_withLobby (w : World) (l : Lobby) : Framed w (w.withLobby l) :=
  ⟨fun _ => rfl, rfl, rfl, rfl, LogGrows.refl _ w⟩

/-- A calm state change, or one fired batch. -/
def CalmOrBatch (gid : Nat) (reason : Reason) (roster : List Nat) (e : TraceEntry) : Prop :=
  e.IsCalm ∨ e = .statsBatch gid reason roster

variable (env : Env)

/-! ## A push that raises is in the log -/

theorem send_onError (port : Port) (c : ConnId) (r : Request) :
    OnError (Failed env) (RMCDispatcher.send env port c (.request r)) := by
  intro w e w' h
  unfold RMCDispatcher.send at h
  rw [run_attempt_bind] at h
  generalize (RMCDispatcher.sendMessage env c (.request r)).run w = out at h
  obtain ⟨res, w1⟩ := out
  cases res with
  | ok u => cases h
  | error e1 =>
    cases h
    exact .inl ⟨port, c, r, List.mem_append_right _ (List.mem_singleton.mpr rfl)⟩

theorem sendRequest_onError (port : Port) (c : ConnId) (proto method : Nat) (params : Bytes) :
    OnError (Failed env) (RMCDispatcher.sendRequest env port c proto method params) := by
  refine OnError.bind OnError.get fun w => ?_
  exact OnError.bind (OnError.modify _) fun _ => send_onError env port c _

theorem pushTo_onError (port : Port) (remote : Remote) (payload : World → Bytes) :
    OnError (Failed env) (Notification.pushTo env port remote payload) := by
  refine OnError.bind OnError.get fun w => ?_
  split
  · exact OnError.pure _
  · exact sendRequest_onError env port _ _ _ _

theorem pushStatsProcessed_onError (port : Port) (g : Gathering) (sourcePid : Nat)
    (txnIds : Dict Nat Nat) (careerCash : Dict Nat F32) :
    OnError (Failed env) (Notification.pushStatsProcessed env port g sourcePid txnIds careerCash) := by
  apply OnError.forEach
  intro p _
  exact pushTo_onError env port _ _

/-! ## The batch -/

namespace Game

theorem read_onError : OnError (fun _ => ∃ n, env.readFails n = true) (Db.read env) := by
  intro d e d' h
  unfold Db.read at h
  rw [run_get_bind, run_modify_bind] at h
  split at h
  · next hf => exact ⟨_, hf⟩
  · cases h

theorem dbCon_onError : OnError (fun _ => ∃ n, env.readFails n = true) (Db.dbCon env) := by
  refine OnError.bind OnError.get fun d => ?_
  split
  · exact OnError.pure _
  · refine OnError.bind ?_ fun _ => OnError.modify _
    exact OnError.bind (read_onError env) fun _ => OnError.pure _

theorem careerCashOf_onError (g : Gathering) : OnError (Failed env) (careerCashOf env g) := by
  refine OnError.bind (OnError.mapEach _ ?_) fun _ => OnError.pure _
  intro p _ w e w' h
  have hdb : OnError (fun _ => ∃ n, env.readFails n = true)
      (do Db.dbCon env; let x ← Career.careerCash env p.pid; return (p.pid, x)) := by
    refine OnError.bind (dbCon_onError env) fun _ => OnError.bind ?_ fun _ => OnError.pure _
    refine OnError.bind ?_ fun _ => OnError.pure _
    exact OnError.bind (read_onError env) fun _ => OnError.pure _
  unfold Srv.useDb at h
  rw [run_zoom, Prod.mk.injEq] at h
  exact .inr (hdb w.db e _ (Prod.ext h.1 rfl))

theorem announceBatch_onError (port : Port) (g : Gathering) :
    OnError (Failed env) (announceBatch env port g) := by
  refine OnError.bind (careerCashOf_onError env g) fun cash => ?_
  exact OnError.bind OnError.get fun w => pushStatsProcessed_onError env port g _ _ _

theorem announceBatch_mute (port : Port) (g : Gathering) :
    Within Mute (announceBatch env port g) := by
  refine Within.bind (Within.bind (Within.mapEach _ ?_) fun _ => Within.pure _) fun cash => ?_
  · intro p _
    apply Srv.useDb_mute
    refine Within.bind (Db.dbCon_kept env) fun _ => ?_
    exact Within.bind (Career.careerCash_kept env p.pid) fun _ => Within.pure _
  · exact Within.bind Within.get fun w => Notification.pushStatsProcessed_mute env port g _ _ _

/-- A state once a batch is logged and its timer cancelled. -/
def firing (gid : Nat) (reason : Reason) (roster : List Nat) (w : World) : World :=
  { w with trace := w.trace ++ [.statsBatch gid reason roster], lobby := w.lobby.disarm gid }

theorem fire_run (port : Port) {gid : Nat} (reason : Reason) {w : World} {g : Gathering}
    (hg : w.lobby.get gid = some g) (hr : g.receivedM12Pids ≠ ∅) :
    (fireStatsProcessedBatch env port gid reason).run w =
      (announceBatch env port g >>= fun _ => Srv.setGathering gid clearBatch).run
        (firing gid reason g.pids w) := by
  unfold fireStatsProcessedBatch
  rw [run_get_bind, hg]
  simp only [if_neg hr]
  rfl

/-- What firing a batch leaves: the timer is cancelled, and unless something
raised, both sets are cleared. -/
structure Fired (gid : Nat) (reason : Reason) (roster : List Nat) (w w' : World) : Prop where
  framed : Framed w w'
  log : LogGrows (CalmOrBatch gid reason roster) w w'
  first : ∃ rest, w'.trace = w.trace ++ .statsBatch gid reason roster :: rest
  lobby : ∃ clear, w'.lobby = w.lobby.fire gid clear ∧ (clear = true ∨ Failed env w')

theorem fire_spec (port : Port) (gid : Nat) (reason : Reason) (w : World) (g : Gathering)
    (hg : w.lobby.get gid = some g) (hr : g.receivedM12Pids ≠ ∅) :
    Fired env gid reason g.pids w ((fireStatsProcessedBatch env port gid reason).after w) := by
  let w1 : World := firing gid reason g.pids w
  have hlog : ∀ K : TraceEntry → Prop, K (.statsBatch gid reason g.pids) → LogGrows K w w1 := by
    intro K hK
    exact ⟨[_], rfl, by simpa using hK⟩
  have hq : Quiet w1 ((announceBatch env port g).after w1) :=
    (announceBatch_mute env port g w1).toQuiet
  have hf1 : Framed w w1 := ⟨fun _ => rfl, rfl, rfl, rfl, hlog _ (.inr ⟨_, _, _, rfl⟩)⟩
  have hframed : Framed w ((announceBatch env port g).after w1) := trans_of Framed hf1 hq.framed
  have hgrows : LogGrows (CalmOrBatch gid reason g.pids) w ((announceBatch env port g).after w1) :=
    (hlog _ (.inr rfl)).trans (hq.log.mono fun _ he => .inl he)
  have hfirst : ∃ rest, ((announceBatch env port g).after w1).trace =
      w.trace ++ .statsBatch gid reason g.pids :: rest := by
    obtain ⟨rest, hrest, -⟩ := hq.log
    exact ⟨rest, by rw [hrest]; simp [w1, firing]⟩
  unfold after
  rw [fire_run env port reason hg hr]
  rcases run_bind_cases (announceBatch env port g) (fun _ => Srv.setGathering gid clearBatch) w1 with
    ⟨e, he, hb⟩ | ⟨u, hu, hb⟩
  · rw [hb]
    exact ⟨hframed, hgrows, hfirst, false, hq.lobby,
      .inr (announceBatch_onError env port g w1 e _ he)⟩
  · rw [hb]
    refine ⟨trans_of Framed hframed (framed_withLobby _ _), hgrows.trans (.of_same rfl), hfirst,
      true, ?_, .inl rfl⟩
    show ((announceBatch env port g).after w1).lobby.update gid clearBatch = w.lobby.fire gid true
    rw [hq.lobby]
    rfl

/-! ## Reports -/

theorem mem_pids_of_senderGathering {l : Lobby} {pid : Nat} {g : Gathering}
    (h : senderGathering l pid = some g) : pid ∈ g.pids := by
  have := List.find?_some h
  rw [List.any_eq_true] at this
  obtain ⟨p, hp, he⟩ := this
  exact List.mem_map.mpr ⟨p, hp, by simpa using he⟩

theorem get_of_senderGathering {l : Lobby} (hl : l.registry.WellIndexed) {pid : Nat} {g : Gathering}
    (h : senderGathering l pid = some g) : l.get g.id = some g := by
  obtain ⟨gid, hg⟩ := (l.registry.mem_allGatherings_iff g).mp (List.mem_of_find?_eq_some h)
  rw [hl.ids gid g hg]
  exact hg

/-- A lobby with its expected set and one more report. -/
def reported (g : Gathering) (pid : Nat) : Gathering := addReport pid (snapshot g)

theorem get_addReport (l : Lobby) (gid pid k : Nat) :
    (l.addReport gid pid).get k =
      if k = gid then (l.get gid).map fun g => reported g pid else l.get k := by
  unfold Lobby.addReport
  rw [Lobby.get_update, Lobby.get_update_self, Lobby.get_update, Option.map_map]
  by_cases hk : k = gid
  · rw [if_pos hk, if_pos hk]; rfl
  · rw [if_neg hk, if_neg hk, if_neg hk]

theorem participants_reported (g : Gathering) (pid : Nat) :
    (reported g pid).participants = g.participants := by
  unfold reported snapshot
  split <;> rfl

theorem pids_reported (g : Gathering) (pid : Nat) : (reported g pid).pids = g.pids := by
  unfold Gathering.pids
  rw [participants_reported]

theorem mem_received_reported (g : Gathering) (pid : Nat) : pid ∈ (reported g pid).receivedM12Pids :=
  Finset.mem_insert_self _ _

/-- The lobby whose batch a report of this player completes, with the report in it. -/
def completing (l : Lobby) (pid : Nat) : Option Gathering :=
  ((senderGathering l pid).map fun g => reported g pid).filter fun g =>
    decide (g.expectedM12Pids ⊆ g.receivedM12Pids)

theorem completing_eq_some {l : Lobby} {pid : Nat} {g' : Gathering} (h : completing l pid = some g') :
    ∃ g, senderGathering l pid = some g ∧ g' = reported g pid ∧
      g'.expectedM12Pids ⊆ g'.receivedM12Pids := by
  unfold completing at h
  rw [Option.filter_eq_some_iff] at h
  obtain ⟨g, hg, rfl⟩ := Option.map_eq_some_iff.mp h.1
  exact ⟨g, hg, rfl, of_decide_eq_true h.2⟩

theorem id_reported (g : Gathering) (pid : Nat) : (reported g pid).id = g.id := by
  unfold reported snapshot
  split <;> rfl

theorem get_addReport_sender {l : Lobby} (hl : l.registry.WellIndexed) {pid : Nat} {g : Gathering}
    (h : senderGathering l pid = some g) : (l.addReport g.id pid).get g.id = some (reported g pid) := by
  rw [get_addReport, if_pos rfl, get_of_senderGathering hl h]
  rfl

/-- A report is about the lobby of its sender. -/
theorem get_report_of_ne {l : Lobby} {pid k : Nat}
    (hother : ∀ g, senderGathering l pid = some g → k ≠ g.id) (port : Port) (arm clear : Bool) :
    (l.report port pid arm clear).get k = l.get k := by
  unfold Lobby.report
  split
  · rfl
  · next g hg =>
    have hne := hother g hg
    have hreport : (l.addReport g.id pid).get k = l.get k := by
      rw [get_addReport, if_neg hne]
    split
    · exact hreport
    · split
      · rw [Lobby.get_fire, if_neg hne, hreport]
      · split
        · rw [Lobby.get_arm, if_neg hne, hreport]
        · exact hreport

/-- A report that completes no batch. -/
theorem trackReport_waits (port : Port) {pid : Nat} {w : World} (hw : w.lobby.registry.WellIndexed)
    (h : completing w.lobby pid = none) (clear : Bool) : (trackReport env port pid).run w =
      (.ok (), w.withLobby (w.lobby.report port pid env.loopRunning clear)) := by
  unfold trackReport Lobby.report
  rw [run_get_bind]
  unfold completing at h
  cases hs : senderGathering w.lobby pid with
  | none => rfl
  | some g =>
    rw [hs, Option.map_some, Option.filter_some] at h
    have hsub : ¬ (reported g pid).expectedM12Pids ⊆ (reported g pid).receivedM12Pids := by
      intro hsub
      rw [if_pos (decide_eq_true hsub)] at h
      cases h
    have hget := get_addReport_sender hw hs
    have hrun : ∀ k : World → Srv Unit,
        (Srv.setGathering g.id snapshot >>= fun _ =>
          Srv.setGathering g.id (addReport pid) >>= fun _ => Act.get >>= k).run w =
        (k (w.withLobby (w.lobby.addReport g.id pid))).run
          (w.withLobby (w.lobby.addReport g.id pid)) := fun _ => rfl
    have hget' : (w.withLobby (w.lobby.addReport g.id pid)).lobby.get g.id = some (reported g pid) :=
      hget
    simp only [hrun, hget, hget', if_neg hsub, id_reported]
    split <;> rfl

/-- A report that completes the batch of its lobby. -/
theorem trackReport_fires (port : Port) {pid : Nat} {w : World} (hw : w.lobby.registry.WellIndexed)
    {g : Gathering} (h : completing w.lobby pid = some g) : (trackReport env port pid).run w =
      (fireStatsProcessedBatch env port g.id .allReported).run
        (w.withLobby (w.lobby.addReport g.id pid)) := by
  obtain ⟨g, hs, rfl, hsub⟩ := completing_eq_some h
  unfold trackReport
  rw [run_get_bind, hs, id_reported]
  have hget : (w.withLobby (w.lobby.addReport g.id pid)).lobby.get g.id = some (reported g pid) :=
    get_addReport_sender hw hs
  have hrun : ∀ k : World → Srv Unit,
      (Srv.setGathering g.id snapshot >>= fun _ =>
        Srv.setGathering g.id (addReport pid) >>= fun _ => Act.get >>= k).run w =
      (k (w.withLobby (w.lobby.addReport g.id pid))).run
        (w.withLobby (w.lobby.addReport g.id pid)) := fun _ => rfl
  simp only [hrun, hget, if_pos hsub, id_reported]

/-- The log after a report: calm, or one batch of the sender's lobby, whose
expected reporters have all reported. -/
def ReportLog (l : Lobby) (pid : Nat) (e : TraceEntry) : Prop :=
  e.IsCalm ∨ ∃ g, senderGathering l pid = some g ∧
    (reported g pid).expectedM12Pids ⊆ (reported g pid).receivedM12Pids ∧
    e = .statsBatch g.id .allReported g.pids

structure Tracked (port : Port) (pid : Nat) (w w' : World) : Prop where
  framed : Framed w w'
  log : LogGrows (ReportLog w.lobby pid) w w'
  lobby : ∃ clear, w'.lobby = w.lobby.report port pid env.loopRunning clear ∧
    (clear = true ∨ Failed env w')

theorem trackReport_spec (port : Port) (pid : Nat) (w : World) (hw : w.lobby.registry.WellIndexed) :
    Tracked env port pid w ((trackReport env port pid).after w) := by
  unfold after
  cases hc : completing w.lobby pid with
  | none =>
    rw [trackReport_waits env port hw hc true]
    exact ⟨framed_withLobby w _, .of_same rfl, true, rfl, .inl rfl⟩
  | some g' =>
    rw [trackReport_fires env port hw hc]
    obtain ⟨g, hs, rfl, hsub⟩ := completing_eq_some hc
    rw [id_reported]
    have hget := get_addReport_sender hw hs
    have hne : (reported g pid).receivedM12Pids ≠ ∅ :=
      Finset.ne_empty_of_mem (mem_received_reported g pid)
    let w1 : World := w.withLobby (w.lobby.addReport g.id pid)
    obtain ⟨hf, hlog, -, clear, hlob, hfail⟩ := fire_spec env port g.id .allReported w1 _ hget hne
    rw [pids_reported] at hlog
    refine ⟨trans_of Framed (framed_withLobby w _) hf, ?_, clear, ?_, hfail⟩
    · refine LogGrows.trans (.of_same rfl) (hlog.mono fun e he => ?_)
      rcases he with he | he
      · exact .inl he
      · exact .inr ⟨g, hs, hsub, he⟩
    · unfold Lobby.report
      simp only [hs, hget, if_pos hsub]
      exact hlob

/-- A stored upload changes the database and its log only. -/
theorem persistMatch_calm (pid : Nat) (vec0 : List F32) (rows : List (Nat × LeaderboardRow)) :
    Within Calm (persistMatch env pid vec0 rows) := by
  refine Within.bind (Within.attempt ?_) fun r => ?_
  · intro w
    exact ⟨fun _ => rfl, rfl, rfl, rfl, rfl, .of_same rfl⟩
  · cases r with
    | error e => exact Within.pure _
    | ok u =>
      refine Within.bind (Within.modify ?_) fun _ => Within.pure _
      intro w
      exact ⟨fun _ => rfl, rfl, rfl, rfl, rfl, [_], rfl, by
        intro e he
        exact .inr ⟨pid, vec0, rows, List.mem_singleton.mp he⟩⟩

theorem storeReport_calm (pid : Nat) (params : Bytes) : Within Calm (storeReport env pid params) := by
  refine Within.bind (((mute_closed env).getCareerVec0 pid).mono fun _ _ h => h.toCalm) fun v => ?_
  refine Within.bind (Within.ofExcept _) fun prior => ?_
  split
  · exact Within.pure _
  · exact Within.pure _
  · refine Within.bind (Within.ofExcept _) fun rows => ?_
    exact Within.bind (persistMatch_calm env pid _ rows) fun _ => Within.pure _

theorem bumpTxn_calm (pid : Nat) : Within Calm (bumpTxn pid) := by
  refine Within.bind Within.get fun w => Within.bind (Within.modify ?_) fun _ => Within.pure _
  intro w'
  exact ⟨fun _ => rfl, rfl, rfl, rfl, rfl, .of_same rfl⟩

end Game

/-! ## A request -/

/-- The lobby move that a request of connection `c`, answered in `w`, makes on the
way to `w'`. -/
inductive Performs (w : World) (port : Port) (c : ConnId) (req : Request) (w' : World) :
    LobbyOp → Prop where
  | idle : Performs w port c req w' .idle
  | create : req.proto = 60 → req.method = 4 → Performs w port c req w'
      (.create (w.heap c).userPid (w.heap c).remote req.params c)
  | join (g : Gathering) : req.proto = 60 → req.method = 5 →
      Game.admitted w (w.heap c).userPid req = some g → Performs w port c req w'
        (.join g.id (w.heap c).userPid (pidName (w.heap c).userPid) (w.heap c).remote c)
  | leave : req.proto = 60 → req.method = 16 →
      Performs w port c req w' (.leave (leadingGid req) (w.heap c).userPid)
  | destroy (g : Gathering) : req.proto = 21 → req.method = 36 →
      w.lobby.get (leadingGid req) = some g → (w.heap c).userPid = g.ownerPid →
      Performs w port c req w' (.destroy (leadingGid req))
  | close : req.proto = 60 → req.method = 19 → leadingGid req ≠ 0 →
      Performs w port c req w' (.close (leadingGid req))
  | reopen : req.proto = 60 → req.method = 23 → leadingGid req ≠ 0 →
      Performs w port c req w' (.reopen (leadingGid req))
  | report (clear : Bool) : req.proto = 60 → req.method = 12 → req.params ≠ [] →
      clear = true ∨ Failed env w' →
      Performs w port c req w' (.report port (w.heap c).userPid env.loopRunning clear)
  | cancel (g : Gathering) : req.proto = 60 → req.method = 15 →
      Game.endGameTarget w.lobby (w.heap c).userPid req = some g →
      Performs w port c req w' (.cancel g.id)

/-- What the log of a request may hold. -/
def RequestLog (w : World) (c : ConnId) (req : Request) (e : TraceEntry) : Prop :=
  e.IsCalm ∨ (req.proto = 60 ∧ req.method = 12 ∧ req.params ≠ [] ∧
    Game.ReportLog w.lobby (w.heap c).userPid e)

structure Handled (w : World) (port : Port) (c : ConnId) (req : Request) (w' : World) : Prop where
  framed : Framed w w'
  log : LogGrows (RequestLog w c req) w w'
  lobby : ∃ op, Performs env w port c req w' op ∧ w'.lobby = op.apply w.lobby

theorem Handled.of_calm {w w' : World} {port : Port} {c : ConnId} {req : Request} (h : Calm w w') :
    Handled env w port c req w' :=
  ⟨h.framed, h.log.mono fun _ he => .inl he, .idle, .idle, h.lobby⟩

theorem Handled.of_within {m : Srv Message} (h : Within Mute m) (w : World) (port : Port)
    (c : ConnId) (req : Request) : Handled env w port c req (m.after w) :=
  Handled.of_calm env (h w).toCalm

/-- A move of the lobbies, and nothing else that is not quiet. -/
theorem Handled.of_move {w w' : World} {port : Port} {c : ConnId} {req : Request} {op : LobbyOp}
    (h : Performs env w port c req w' op) (hq : Quiet (w.withLobby (op.apply w.lobby)) w') :
    Handled env w port c req w' :=
  ⟨trans_of Framed (framed_withLobby w _) hq.framed,
    LogGrows.trans (.of_same rfl) (hq.log.mono fun _ he => .inl he), op, h, hq.lobby⟩

namespace Game

theorem createGathering_handled (w : World) (port : Port) (c : ConnId) (req : Request)
    (h1 : req.proto = 60) (h2 : req.method = 4) :
    Handled env w port c req ((createGathering c req).after w) :=
  Handled.of_move env (.create h1 h2) (refl_of Quiet _)

theorem welcome_quiet (port : Port) (conn : Connection) (g : Gathering) (req : Request) :
    Within Quiet (welcome env port conn g req) := by
  refine Within.bind Within.get fun w => Within.bind (Within.ofExcept _) fun body => ?_
  have hrest : Within Quiet (do
      Notification.pushJoin env port g conn.userPid
      Notification.pushParticipantsToJoiner env port g conn.userPid
      return ok req body : Srv Message) := by
    refine Within.bind (Notification.broadcast_quiet env port _ _ _ _) fun _ => ?_
    refine Within.bind (Notification.pushParticipantsToJoiner_quiet env port _ _) fun _ => ?_
    exact Within.pure _
  split
  · refine Within.bind ?_ fun _ => hrest
    exact ((mute_closed env).pushProbes port _ _).mono fun _ _ h => h.toQuiet
  · exact hrest

/-- The world of a join, before the joiner is welcomed. -/
def joinedWorld (w : World) (c : ConnId) (g : Gathering) : World :=
  w.withLobby ((LobbyOp.join g.id (w.heap c).userPid (pidName (w.heap c).userPid)
    (w.heap c).remote c).apply w.lobby)

theorem joinGathering_admitted (w : World) (port : Port) (c : ConnId) (req : Request) (g : Gathering)
    (h : admitted w (w.heap c).userPid req = some g) :
    (joinGathering env port c req).run w =
      (welcome env port (w.heap c) (((joinedWorld w c g).lobby.get g.id).getD g) req).run
        (joinedWorld w c g) := by
  unfold joinGathering Srv.conn
  simp only [run_bind, run_get, run_pure, h]
  rfl

theorem joinGathering_refused (w : World) (port : Port) (c : ConnId) (req : Request)
    (h : admitted w (w.heap c).userPid req = none) :
    (joinGathering env port c req).run w = (.ok (sessionVoid req), w) := by
  unfold joinGathering Srv.conn
  simp only [run_bind, run_get, run_pure, h]

theorem joinGathering_quiet (w : World) (port : Port) (c : ConnId) (req : Request) (g : Gathering)
    (h : admitted w (w.heap c).userPid req = some g) :
    Quiet (joinedWorld w c g) ((joinGathering env port c req).after w) := by
  unfold after
  rw [joinGathering_admitted env w port c req g h]
  exact welcome_quiet env port _ _ req _

theorem joinGathering_handled (w : World) (port : Port) (c : ConnId) (req : Request)
    (h1 : req.proto = 60) (h2 : req.method = 5) :
    Handled env w port c req ((joinGathering env port c req).after w) := by
  cases h : admitted w (w.heap c).userPid req with
  | none =>
    unfold after
    rw [joinGathering_refused env w port c req h]
    exact Handled.of_calm env (refl_of Calm w)
  | some g => exact Handled.of_move env (.join g h1 h2 h) (joinGathering_quiet env w port c req g h)

/-- Whoever leaves, the lobby changes before anything is pushed. -/
theorem leaveGathering_run (w : World) (port : Port) (c : ConnId) (req : Request) :
    (leaveGathering env port c req).run w = (do
        if (w.lobby.registry.removeParticipant (leadingGid req) (w.heap c).userPid).1 then
          match (w.lobby.registry.removeParticipant (leadingGid req) (w.heap c).userPid).2.get
              (leadingGid req) with
          | some g => Notification.pushLeave env port g (w.heap c).userPid
          | none => pure ()
        return ok req [] : Srv Message).run
      (w.withLobby ((LobbyOp.leave (leadingGid req) (w.heap c).userPid).apply w.lobby)) := rfl

theorem leaveGathering_quiet (w : World) (port : Port) (c : ConnId) (req : Request) :
    Quiet (w.withLobby ((LobbyOp.leave (leadingGid req) (w.heap c).userPid).apply w.lobby))
      ((leaveGathering env port c req).after w) := by
  unfold after
  rw [leaveGathering_run]
  refine (?_ : Within Quiet _) _
  split
  · split
    · exact Within.bind (Notification.broadcast_quiet env port _ _ _ _) fun _ => Within.pure _
    · exact Within.pure _
  · exact Within.pure _

theorem leaveGathering_handled (w : World) (port : Port) (c : ConnId) (req : Request)
    (h1 : req.proto = 60) (h2 : req.method = 16) :
    Handled env w port c req ((leaveGathering env port c req).after w) :=
  Handled.of_move env (.leave h1 h2) (leaveGathering_quiet env w port c req)

theorem closeParticipation_handled (w : World) (port : Port) (c : ConnId) (req : Request)
    (h1 : req.proto = 60) (h2 : req.method = 19) :
    Handled env w port c req ((closeParticipation req).after w) := by
  by_cases h0 : leadingGid req = 0
  · have : (closeParticipation req).run w = (.ok (ok req []), w) := by
      unfold closeParticipation
      simp only [h0]
      rfl
    unfold after
    rw [this]
    exact Handled.of_calm env (refl_of Calm w)
  · refine Handled.of_move env (.close h1 h2 h0) ?_
    have : (closeParticipation req).run w =
        (.ok (ok req []), w.withLobby ((LobbyOp.close (leadingGid req)).apply w.lobby)) := by
      unfold closeParticipation
      simp only [if_pos (show leadingGid req ≠ 0 from h0)]
      rfl
    unfold after
    rw [this]
    exact refl_of Quiet _

theorem openParticipation_handled (w : World) (port : Port) (c : ConnId) (req : Request)
    (h1 : req.proto = 60) (h2 : req.method = 23) :
    Handled env w port c req ((openParticipation req).after w) := by
  by_cases h0 : leadingGid req = 0
  · have : (openParticipation req).run w = (.ok (ok req []), w) := by
      unfold openParticipation
      simp only [h0]
      rfl
    unfold after
    rw [this]
    exact Handled.of_calm env (refl_of Calm w)
  · refine Handled.of_move env (.reopen h1 h2 h0) ?_
    have : (openParticipation req).run w =
        (.ok (ok req []), w.withLobby ((LobbyOp.reopen (leadingGid req)).apply w.lobby)) := by
      unfold openParticipation
      simp only [if_pos (show leadingGid req ≠ 0 from h0)]
      rfl
    unfold after
    rw [this]
    exact refl_of Quiet _

theorem endGame_handled (w : World) (port : Port) (c : ConnId) (req : Request)
    (h1 : req.proto = 60) (h2 : req.method = 15) :
    Handled env w port c req ((endGame c req).after w) := by
  unfold endGame Srv.conn after
  simp only [run_bind, run_get, run_pure]
  cases h : endGameTarget w.lobby (w.heap c).userPid req with
  | none => exact Handled.of_calm env (refl_of Calm w)
  | some g =>
    by_cases hb : g.m12TimeoutHandle.isSome = true ∨ g.expectedM12Pids ≠ ∅
    · simp only [if_pos hb]
      exact Handled.of_move env (.cancel g h1 h2 h) (refl_of Quiet _)
    · simp only [if_neg hb]
      exact Handled.of_calm env (refl_of Calm w)

end Game

theorem destroyGathering_handled (w : World) (port : Port) (c : ConnId) (req : Request)
    (h1 : req.proto = 21) (h2 : req.method = 36) :
    Handled env w port c req ((Matchmaking.destroyGathering env port c req).after w) := by
  unfold Matchmaking.destroyGathering Srv.conn after
  simp only [run_bind, run_get, run_pure]
  cases h : w.lobby.get (leadingGid req) with
  | none => exact Handled.of_calm env (refl_of Calm w)
  | some g =>
    by_cases ho : (w.heap c).userPid = g.ownerPid
    · have hq := Notification.broadcast_quiet env port g.participants (w.heap c).userPid
        Notification.eventEndParticipation g.id w
      simp only [if_pos ho]
      unfold WithinAt at hq
      change Quiet w ((Notification.pushLeave env port g (w.heap c).userPid).run w).2 at hq
      cases hr : (Notification.pushLeave env port g (w.heap c).userPid).run w with
      | mk r w1 =>
        rw [hr] at hq
        simp only [run_bind, hr]
        cases r with
        | error e => exact Handled.of_calm env hq.toCalm
        | ok u =>
          refine ⟨trans_of Framed hq.framed (framed_withLobby w1 _), ?_, _, .destroy g h1 h2 h ho, ?_⟩
          · exact LogGrows.trans (hq.log.mono fun _ he => .inl he) (.of_same rfl)
          · show (LobbyOp.destroy (leadingGid req)).apply w1.lobby = _
            rw [hq.lobby]
    · simp only [if_neg ho]
      exact Handled.of_calm env (refl_of Calm w)

theorem Failed.mono {w w' : World} {K : TraceEntry → Prop} (h : Failed env w) (hl : LogGrows K w w') :
    Failed env w' :=
  h.imp (fun ⟨port, c, r, hm⟩ => ⟨port, c, r, hl.mem hm⟩) id

namespace Game

/-- The part of a report before it is tracked. -/
theorem beforeTracking_calm (pid : Nat) (params : Bytes) (masks : Except Exc Unit) :
    Within Calm (storeReport env pid params >>= fun r => bumpTxn pid >>= fun txn =>
      Act.ofExcept masks >>= fun _ => pure (r, txn) : Srv ((F32 × F32) × Nat)) := by
  refine Within.bind (storeReport_calm env pid params) fun r => ?_
  refine Within.bind (bumpTxn_calm pid) fun txn => ?_
  exact Within.bind (Within.ofExcept _) fun _ => Within.pure _

theorem reportStats_split (w : World) (port : Port) (c : ConnId) (req : Request) :
    (reportStats env port c req).run w =
      ((storeReport env (w.heap c).userPid req.params >>= fun r =>
        bumpTxn (w.heap c).userPid >>= fun txn =>
        Act.ofExcept (logMasks ((parseM12SenderVec0 req.params (w.heap c).userPid).getD [])) >>=
          fun _ => pure (r, txn) : Srv ((F32 × F32) × Nat)) >>= fun x => do
        trackReport env port (w.heap c).userPid
        return ok req (buildSparkstatsReply (w.heap c).userPid x.1.1 x.1.2 x.2)).run w := by
  unfold reportStats Srv.conn
  simp only [run_bind, run_get, run_pure]
  generalize (storeReport env (w.heap c).userPid req.params).run w = out
  obtain ⟨r, w1⟩ := out
  cases r with
  | error e => rfl
  | ok r =>
    simp only
    generalize (bumpTxn (w.heap c).userPid).run w1 = out
    obtain ⟨txn, w2⟩ := out
    cases txn with
    | error e => rfl
    | ok txn =>
      simp only [run_ofExcept]
      cases logMasks ((parseM12SenderVec0 req.params (w.heap c).userPid).getD []) <;> rfl

theorem reportStats_handled (w : World) (port : Port) (c : ConnId) (req : Request)
    (hw : w.lobby.registry.WellIndexed) (h1 : req.proto = 60) (h2 : req.method = 12)
    (h3 : req.params ≠ []) :
    Handled env w port c req ((reportStats env port c req).after w) := by
  have hcalm := beforeTracking_calm env (w.heap c).userPid req.params
    (logMasks ((parseM12SenderVec0 req.params (w.heap c).userPid).getD [])) w
  unfold after
  rw [reportStats_split]
  generalize (storeReport env (w.heap c).userPid req.params >>= fun r =>
    bumpTxn (w.heap c).userPid >>= fun txn =>
    Act.ofExcept (logMasks ((parseM12SenderVec0 req.params (w.heap c).userPid).getD [])) >>=
      fun _ => pure (r, txn) : Srv ((F32 × F32) × Nat)) = before at hcalm ⊢
  unfold WithinAt at hcalm
  rw [run_bind]
  cases hb : before.run w with
  | mk r w1 =>
    rw [hb] at hcalm
    cases r with
    | error e => exact Handled.of_calm env hcalm
    | ok x =>
      have hlobby : w1.lobby = w.lobby := hcalm.lobby
      have ht := trackReport_spec env port (w.heap c).userPid w1 (by rw [hlobby]; exact hw)
      -- the answer changes nothing
      have hafter : ∀ m : Message, ((do
          trackReport env port (w.heap c).userPid
          return m : Srv Message).run w1).2 =
          (trackReport env port (w.heap c).userPid).after w1 := by
        intro m
        rw [run_bind]
        unfold after
        generalize (trackReport env port (w.heap c).userPid).run w1 = out
        obtain ⟨u, w2⟩ := out
        cases u <;> rfl
      simp only
      rw [hafter]
      obtain ⟨hf, hlog, clear, hl, hc⟩ := ht
      rw [hlobby] at hlog hl
      refine ⟨trans_of Framed hcalm.framed hf, ?_, _, .report clear h1 h2 h3 hc, hl⟩
      exact LogGrows.trans (hcalm.log.mono fun _ he => .inl he)
        (hlog.mono fun _ he => .inr ⟨h1, h2, h3, he⟩)

theorem lifecycleStub_handled (w : World) (port : Port) (c : ConnId) (req : Request)
    (hw : w.lobby.registry.WellIndexed) (h1 : req.proto = 60) :
    Handled env w port c req ((lifecycleStub env port c req).after w) := by
  unfold lifecycleStub
  by_cases h2 : req.method = methodReportStats ∧ req.params ≠ []
  · rw [if_pos h2]
    exact reportStats_handled env w port c req hw h1 h2.1 h2.2
  · rw [if_neg h2]
    by_cases h3 : req.method = methodEndGame
    · rw [if_pos h3]
      exact endGame_handled env w port c req h1 h3
    · rw [if_neg h3]
      exact Handled.of_calm env (refl_of Calm w)

end Game

/-! ## Every request -/

theorem mem_handlers {req : Request} {h : Handler} (hh : RMCDispatcher.handlerFor env req = some h) :
    ((req.proto, req.method), h) ∈ RMCDispatcher.handlers env := by
  unfold RMCDispatcher.handlerFor at hh
  obtain ⟨l1, l2, he, -⟩ := List.lookup_eq_some_iff.mp hh
  rw [he]
  exact List.mem_append_right _ List.mem_cons_self

theorem handler_handled (w : World) (port : Port) (c : ConnId) (req : Request)
    (hw : w.lobby.registry.WellIndexed) {h : Handler}
    (hh : RMCDispatcher.handlerFor env req = some h) :
    Handled env w port c req ((h port c req).after w) := by
  have hm := mem_handlers env hh
  simp only [RMCDispatcher.handlers, List.mem_cons, Prod.mk.injEq, List.not_mem_nil, or_false] at hm
  rcases hm with ⟨⟨h1, h2⟩, rfl⟩ | ⟨⟨h1, h2⟩, rfl⟩ | ⟨⟨h1, h2⟩, rfl⟩ | ⟨⟨h1, h2⟩, rfl⟩ |
    ⟨⟨h1, h2⟩, rfl⟩ | ⟨⟨h1, h2⟩, rfl⟩ | ⟨⟨h1, h2⟩, rfl⟩ | ⟨⟨h1, h2⟩, rfl⟩ | ⟨⟨h1, h2⟩, rfl⟩ |
    ⟨⟨h1, h2⟩, rfl⟩ | ⟨⟨h1, h2⟩, rfl⟩ | ⟨⟨h1, h2⟩, rfl⟩ | ⟨⟨h1, h2⟩, rfl⟩ | ⟨⟨h1, h2⟩, rfl⟩ |
    ⟨⟨h1, h2⟩, rfl⟩ | ⟨⟨h1, h2⟩, rfl⟩ | ⟨⟨h1, h2⟩, rfl⟩ | ⟨⟨h1, h2⟩, rfl⟩ | ⟨⟨h1, h2⟩, rfl⟩ |
    ⟨⟨h1, h2⟩, rfl⟩ | ⟨⟨h1, h2⟩, rfl⟩ | ⟨⟨h1, h2⟩, rfl⟩
  · exact Handled.of_within env ((mute_closed env).login req) w port c req
  · exact Handled.of_within env ((mute_closed env).requestTicket req) w port c req
  · exact Handled.of_within env (registerEx_mute c req) w port c req
  · exact Handled.of_within env (Pushless.getAccountInfoPublicData req) w port c req
  · exact destroyGathering_handled env w port c req h1 h2
  · exact Handled.of_within env (Within.pure _) w port c req
  · exact Handled.of_within env ((mute_closed env).requestProbeInitiation port c req) w port c req
  · exact Game.createGathering_handled env w port c req h1 h2
  · exact Game.joinGathering_handled env w port c req h1 h2
  · exact Handled.of_within env ((mute_closed env).leaderboardQuery c req) w port c req
  · exact Handled.of_within env ((mute_closed env).userStats req) w port c req
  · exact Handled.of_within env (Within.pure _) w port c req
  · exact Game.lifecycleStub_handled env w port c req hw h1
  · exact Game.lifecycleStub_handled env w port c req hw h1
  · exact Game.leaveGathering_handled env w port c req h1 h2
  · exact Handled.of_within env ((mute_closed env).leaderboardQuery c req) w port c req
  · exact Game.closeParticipation_handled env w port c req h1 h2
  · exact Handled.of_within env (Pushless.searchGatherings req) w port c req
  · exact Handled.of_within env (Pushless.quickMatch c req) w port c req
  · exact Handled.of_within env (Within.pure _) w port c req
  · exact Game.openParticipation_handled env w port c req h1 h2
  · exact Game.lifecycleStub_handled env w port c req hw h1

theorem Performs.mono {w w1 w' : World} {port : Port} {c : ConnId} {req : Request} {op : LobbyOp}
    (h : Performs env w port c req w1 op) (hF : Failed env w1 → Failed env w') :
    Performs env w port c req w' op := by
  cases h with
  | idle => exact .idle
  | create h1 h2 => exact .create h1 h2
  | join g h1 h2 h3 => exact .join g h1 h2 h3
  | leave h1 h2 => exact .leave h1 h2
  | destroy g h1 h2 h3 h4 => exact .destroy g h1 h2 h3 h4
  | close h1 h2 h3 => exact .close h1 h2 h3
  | reopen h1 h2 h3 => exact .reopen h1 h2 h3
  | report clear h1 h2 h3 h4 => exact .report clear h1 h2 h3 (h4.imp id hF)
  | cancel g h1 h2 h3 => exact .cancel g h1 h2 h3

theorem Handled.trans_quiet {w w1 w' : World} {port : Port} {c : ConnId} {req : Request}
    (h : Handled env w port c req w1) (hq : Quiet w1 w') : Handled env w port c req w' := by
  obtain ⟨op, hp, hl⟩ := h.lobby
  exact ⟨trans_of Framed h.framed hq.framed, h.log.trans (hq.log.mono fun _ he => .inl he), op,
    hp.mono env fun hF => hF.mono env hq.log, hq.lobby.trans hl⟩

/-- The answer to a request whose handler has come to `out`. -/
def RMCDispatcher.answerOf (req : Request) : Except Exc Message → Message
  | .ok msg => msg
  | .error _ => RMCDispatcher.failed req 0x80020001

theorem respond_run {port : Port} {c : ConnId} {req : Request} {h : Handler}
    (hh : RMCDispatcher.handlerFor env req = some h) (w : World) :
    (RMCDispatcher.respond env port c req).run w =
      (.ok (RMCDispatcher.answerOf req ((h port c req).run w).1), (h port c req).after w) := by
  unfold RMCDispatcher.respond
  rw [hh]
  simp only
  rw [run_attempt_bind]
  unfold after
  generalize (h port c req).run w = out
  obtain ⟨r, w'⟩ := out
  cases r <;> rfl

/-- The state a request leaves is the one its handler leaves. -/
theorem respond_after_of {req : Request} {h : Handler}
    (hh : RMCDispatcher.handlerFor env req = some h) (port : Port) (c : ConnId) (w : World) :
    (RMCDispatcher.respond env port c req).after w = (h port c req).after w := by
  show ((RMCDispatcher.respond env port c req).run w).2 = _
  rw [respond_run env hh]

theorem respond_after (w : World) (port : Port) (c : ConnId) (req : Request) :
    (RMCDispatcher.handlerFor env req = none ∧ (RMCDispatcher.respond env port c req).after w = w) ∨
    ∃ h, RMCDispatcher.handlerFor env req = some h ∧
      (RMCDispatcher.respond env port c req).after w = (h port c req).after w := by
  cases hh : RMCDispatcher.handlerFor env req with
  | none =>
    left
    unfold RMCDispatcher.respond
    rw [hh]
    exact ⟨rfl, rfl⟩
  | some h => exact .inr ⟨h, rfl, respond_after_of env hh port c w⟩

/-- **Every request**: its handler makes one lobby move, and nothing else changes
that a session rests on. -/
theorem respond_handled (w : World) (port : Port) (c : ConnId) (req : Request)
    (hw : w.lobby.registry.WellIndexed) :
    Handled env w port c req ((RMCDispatcher.respond env port c req).after w) := by
  rcases respond_after env w port c req with ⟨-, h⟩ | ⟨h, hh, ha⟩
  · rw [h]
    exact Handled.of_calm env (refl_of Calm w)
  · rw [ha]
    exact handler_handled env w port c req hw hh

end Ghostbusters
