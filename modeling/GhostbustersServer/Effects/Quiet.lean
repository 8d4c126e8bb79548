import GhostbustersServer.Effects.Notices
import GhostbustersServer.Server

/-!
# What handlers leave alone

    Framed w w'    tables and sessions of the connections are the same, the log has grown
    Calm w w'      and the lobbies are the same, and no stats batch was fired
    Quiet w w'     and the stored stats and the transaction ids are the same
    Mute w w'      and no client has been sent news of a roster
    Acked w w'     and the URLs are the same, and the log has grown by packets only

Each is a preorder, and every function that is not about lobbies or reports is
within `Mute`.
-/

namespace Ghostbusters

open Py Act

/-- What a request cannot change of its connection: all but the packet counter and
what RegisterEx sets. -/
def Connection.core (conn : Connection) : Connection :=
  { conn with outgoingReliableSeq := 1, rvConnectionId := 0, stationUrls := [] }

/-- A packet or a message that leaves the server, or the failure of one to. -/
def TraceEntry.IsSend : TraceEntry → Prop
  | .sendto _ _ | .sent _ _ _ | .sendFailed _ _ _ => True
  | _ => False

/-- A packet below the messages: an acknowledgment, or one that carries a message. -/
def TraceEntry.IsPacket : TraceEntry → Prop
  | .sendto _ _ => True
  | _ => False

theorem TraceEntry.IsPacket.isSend {e : TraceEntry} (h : e.IsPacket) : e.IsSend := by
  cases e <;> first | exact h | exact h.elim

def TraceEntry.IsCalm (e : TraceEntry) : Prop := e.IsSend ∨ ∃ pid vec0 rows, e = .persisted pid vec0 rows

/-- Everything a handler may log. -/
def TraceEntry.FromHandler (e : TraceEntry) : Prop :=
  e.IsCalm ∨ ∃ gid reason roster, e = .statsBatch gid reason roster

/-- The log of `w'` is that of `w` with entries that satisfy `K` behind it. -/
def LogGrows (K : TraceEntry → Prop) (w w' : World) : Prop :=
  ∃ new, w'.trace = w.trace ++ new ∧ ∀ e ∈ new, K e

theorem LogGrows.refl (K : TraceEntry → Prop) (w : World) : LogGrows K w w :=
  ⟨[], by simp, by simp⟩

theorem LogGrows.trans {K : TraceEntry → Prop} {a b c : World} (h1 : LogGrows K a b)
    (h2 : LogGrows K b c) : LogGrows K a c := by
  obtain ⟨n1, e1, k1⟩ := h1
  obtain ⟨n2, e2, k2⟩ := h2
  refine ⟨n1 ++ n2, by rw [e2, e1, List.append_assoc], ?_⟩
  intro e he
  rcases List.mem_append.mp he with he | he
  · exact k1 e he
  · exact k2 e he

instance (K : TraceEntry → Prop) : IsPreorder World (LogGrows K) where
  refl := LogGrows.refl K
  trans := fun _ _ _ => LogGrows.trans

theorem LogGrows.mono {K K' : TraceEntry → Prop} {a b : World} (h : LogGrows K a b)
    (hk : ∀ e, K e → K' e) : LogGrows K' a b := by
  obtain ⟨n, e, k⟩ := h
  exact ⟨n, e, fun x hx => hk x (k x hx)⟩

theorem LogGrows.of_same {K : TraceEntry → Prop} {a b : World} (h : b.trace = a.trace) :
    LogGrows K a b := ⟨[], by simp [h], by simp⟩

theorem LogGrows.mem {K : TraceEntry → Prop} {a b : World} (h : LogGrows K a b) {e : TraceEntry}
    (he : e ∈ a.trace) : e ∈ b.trace := by
  obtain ⟨n, hn, -⟩ := h
  rw [hn]
  exact List.mem_append_left _ he

/-- An entry that `K` excludes was there before. -/
theorem LogGrows.of_mem {K : TraceEntry → Prop} {a b : World} (h : LogGrows K a b) {e : TraceEntry}
    (he : e ∈ b.trace) (hk : ¬ K e) : e ∈ a.trace := by
  obtain ⟨n, hn, hK⟩ := h
  rw [hn] at he
  rcases List.mem_append.mp he with he | he
  · exact he
  · exact absurd (hK e he) hk

structure Framed (w w' : World) : Prop where
  core : ∀ c, (w'.heap c).core = (w.heap c).core
  nextConn : w'.nextConn = w.nextConn
  connections : w'.connections = w.connections
  now : w'.now = w.now
  log : LogGrows TraceEntry.FromHandler w w'

structure Calm (w w' : World) : Prop where
  core : ∀ c, (w'.heap c).core = (w.heap c).core
  nextConn : w'.nextConn = w.nextConn
  connections : w'.connections = w.connections
  now : w'.now = w.now
  lobby : w'.lobby = w.lobby
  log : LogGrows TraceEntry.IsCalm w w'

/-! ## The stored stats -/

/-- The two tables of the game. -/
def Tables.stats (t : Tables) : Dict Nat Bytes × Dict (Nat × Nat) LeaderboardRow :=
  (t.careerStats, t.leaderboardStats)

/-- The stats are `S`, and would be after a ROLLBACK. -/
def Db.Holds (d : Db) (S : Dict Nat Bytes × Dict (Nat × Nat) LeaderboardRow) : Prop :=
  d.tables.stats = S ∧ ∀ t, d.saved = some t → t.stats = S

def Db.Kept (d d' : Db) : Prop := ∀ S, d.Holds S → d'.Holds S

instance : IsPreorder Db Db.Kept where
  refl := fun _ _ h => h
  trans := fun _ _ _ h1 h2 S h => h2 S (h1 S h)

structure Quiet (w w' : World) : Prop extends Calm w w' where
  db : w.db.Kept w'.db
  statsTxnId : w'.statsTxnId = w.statsTxnId
  sends : LogGrows TraceEntry.IsSend w w'

/-- No notice went out. -/
def Unannounced (w w' : World) : Prop := LogGrows (fun e => Notification.noticeOf e = none) w w'

structure Mute (w w' : World) : Prop extends Quiet w w' where
  unannounced : Unannounced w w'

structure Acked (w w' : World) : Prop extends Quiet w w' where
  stationUrls : ∀ c, (w'.heap c).stationUrls = (w.heap c).stationUrls
  packets : LogGrows TraceEntry.IsPacket w w'

theorem TraceEntry.IsPacket.noticeOf {e : TraceEntry} (h : e.IsPacket) :
    Notification.noticeOf e = none := by
  cases e <;> first | rfl | exact h.elim

theorem Acked.mute {w w' : World} (h : Acked w w') : Mute w w' :=
  ⟨h.toQuiet, h.packets.mono fun _ he => he.noticeOf⟩

instance : IsPreorder World Framed where
  refl := fun w => ⟨fun _ => rfl, rfl, rfl, rfl, LogGrows.refl _ w⟩
  trans := fun _ _ _ h1 h2 =>
    ⟨fun c => (h2.core c).trans (h1.core c), h2.nextConn.trans h1.nextConn,
      h2.connections.trans h1.connections, h2.now.trans h1.now, h1.log.trans h2.log⟩

instance : IsPreorder World Calm where
  refl := fun w => ⟨fun _ => rfl, rfl, rfl, rfl, rfl, LogGrows.refl _ w⟩
  trans := fun _ _ _ h1 h2 =>
    ⟨fun c => (h2.core c).trans (h1.core c), h2.nextConn.trans h1.nextConn,
      h2.connections.trans h1.connections, h2.now.trans h1.now, h2.lobby.trans h1.lobby,
      h1.log.trans h2.log⟩

instance : IsPreorder World Quiet where
  refl := fun w => ⟨refl_of Calm w, fun _ h => h, rfl, LogGrows.refl _ w⟩
  trans := fun _ _ _ h1 h2 =>
    ⟨trans_of Calm h1.toCalm h2.toCalm, fun S h => h2.db S (h1.db S h),
      h2.statsTxnId.trans h1.statsTxnId, h1.sends.trans h2.sends⟩

instance : IsPreorder World Unannounced where
  refl := fun w => LogGrows.refl _ w
  trans := fun _ _ _ h1 h2 => LogGrows.trans h1 h2

instance : IsPreorder World Mute where
  refl := fun w => ⟨refl_of Quiet w, refl_of Unannounced w⟩
  trans := fun _ _ _ h1 h2 =>
    ⟨trans_of Quiet h1.toQuiet h2.toQuiet, trans_of Unannounced h1.unannounced h2.unannounced⟩

instance : IsPreorder World Acked where
  refl := fun w => ⟨refl_of Quiet w, fun _ => rfl, LogGrows.refl _ w⟩
  trans := fun _ _ _ h1 h2 => ⟨trans_of Quiet h1.toQuiet h2.toQuiet,
    fun c => (h2.stationUrls c).trans (h1.stationUrls c), h1.packets.trans h2.packets⟩

theorem Calm.framed {w w' : World} (h : Calm w w') : Framed w w' :=
  ⟨h.core, h.nextConn, h.connections, h.now, h.log.mono fun _ he => .inl he⟩

theorem Quiet.framed {w w' : World} (h : Quiet w w') : Framed w w' := h.toCalm.framed

/-- A state that differs in what `Quiet` does not look at. -/
theorem Quiet.of_same {w w' : World} (hcore : ∀ c, (w'.heap c).core = (w.heap c).core)
    (hrest : w'.nextConn = w.nextConn ∧ w'.connections = w.connections ∧ w'.now = w.now ∧
      w'.lobby = w.lobby ∧ w'.statsTxnId = w.statsTxnId ∧ w'.trace = w.trace)
    (hdb : w.db.Kept w'.db) : Quiet w w' := by
  obtain ⟨h1, h2, h3, h4, h5, h6⟩ := hrest
  exact ⟨⟨hcore, h1, h2, h3, h4, .of_same h6⟩, hdb, h5, .of_same h6⟩

theorem Mute.of_same {w w' : World} (hcore : ∀ c, (w'.heap c).core = (w.heap c).core)
    (hrest : w'.nextConn = w.nextConn ∧ w'.connections = w.connections ∧ w'.now = w.now ∧
      w'.lobby = w.lobby ∧ w'.statsTxnId = w.statsTxnId ∧ w'.trace = w.trace)
    (hdb : w.db.Kept w'.db) : Mute w w' :=
  ⟨Quiet.of_same hcore hrest hdb, .of_same hrest.2.2.2.2.2⟩

/-! ## Primitive statements -/

namespace Srv

theorem log_quiet {e : TraceEntry} (h : e.IsSend) : Within Quiet (Srv.log e) := by
  apply Within.modify
  intro w
  have hl : ∀ K : TraceEntry → Prop, K e → LogGrows K w { w with trace := w.trace ++ [e] } := by
    intro K hK
    exact ⟨[e], rfl, by simpa using hK⟩
  exact ⟨⟨fun _ => rfl, rfl, rfl, rfl, rfl, hl _ (.inl h)⟩, fun _ h => h, rfl, hl _ h⟩

theorem conn_mute (c : ConnId) : Within Mute (Srv.conn c) :=
  Within.bind Within.get fun _ => Within.pure _

theorem setConn_mute (c : ConnId) (f : Connection → Connection)
    (h : ∀ conn, (f conn).core = conn.core) : Within Mute (Srv.setConn c f) := by
  apply Within.modify
  intro w
  refine Mute.of_same ?_ ⟨rfl, rfl, rfl, rfl, rfl, rfl⟩ (fun _ h => h)
  intro k
  simp only [Function.update_apply]
  split
  · next hk => rw [h, hk]
  · rfl

theorem useDb_mute {α : Type} {m : Act Db Exc α} (h : Within Db.Kept m) :
    Within Mute (Srv.useDb m) := fun w =>
  Mute.of_same (fun _ => rfl) ⟨rfl, rfl, rfl, rfl, rfl, rfl⟩ (h w.db)

theorem random_mute (env : Env) (n : Nat) : Within Mute (Srv.random env n) := by
  refine Within.bind Within.get fun w => Within.bind (Within.modify ?_) fun _ => Within.pure _
  intro w'
  exact Mute.of_same (fun _ => rfl) ⟨rfl, rfl, rfl, rfl, rfl, rfl⟩ (fun _ h => h)

end Srv

/-! ## Sending -/

variable (env : Env)

theorem conn_acked (c : ConnId) : Within Acked (Srv.conn c) :=
  Within.bind Within.get fun _ => Within.pure _

theorem sendPacket_acked (c : ConnId) (pkt : PRUDPPacket) :
    Within Acked (PRUDPServer.sendPacket env c pkt) := by
  refine Within.bind (conn_acked c) fun conn => ?_
  split
  · intro w
    have hq : Within Quiet (Srv.log (.sendto conn.remote pkt)) := Srv.log_quiet trivial
    refine ⟨hq w, fun _ => rfl, [.sendto conn.remote pkt], rfl, ?_⟩
    intro e he
    rw [List.mem_singleton.mp he]
    trivial
  · exact Within.raise _

theorem sendReliableData_acked (c : ConnId) (body : Bytes) (compress : Bool) :
    Within Acked (PRUDPServer.sendReliableData env c body compress) := by
  refine Within.bind (conn_acked c) fun conn => ?_
  refine Within.bind ?_ fun _ => sendPacket_acked env c _
  intro w
  have hm := Srv.setConn_mute c
    (fun conn => { conn with outgoingReliableSeq := conn.outgoingReliableSeq + 1 }) (fun _ => rfl) w
  refine ⟨hm.toQuiet, ?_, .of_same rfl⟩
  intro k
  show (Function.update w.heap c _ k).stationUrls = _
  rw [Function.update_apply]
  split
  · next hk => rw [hk]
  · rfl

theorem sendMessage_acked (c : ConnId) (msg : Message) :
    Within Acked (RMCDispatcher.sendMessage env c msg) := by
  refine Within.bind (Within.ofExcept _) fun body => ?_
  refine Within.bind (conn_acked c) fun conn => ?_
  exact sendReliableData_acked env c _ _

theorem sendMessage_quiet (c : ConnId) (msg : Message) :
    Within Quiet (RMCDispatcher.sendMessage env c msg) :=
  (sendMessage_acked env c msg).mono fun _ _ h => h.toQuiet

/-- A message that is no notice. -/
theorem send_mute (port : Port) (c : ConnId) (msg : Message)
    (h : Notification.noticeOf (.sent port c msg) = none) :
    Within Mute (RMCDispatcher.send env port c msg) := by
  have hlog : ∀ e : TraceEntry, e.IsSend → Notification.noticeOf e = none →
      Within Mute (Srv.log e) := fun e he hn w =>
    ⟨Srv.log_quiet he w, [e], rfl, by simpa using hn⟩
  refine Within.bind (Within.attempt ?_) fun r => ?_
  · exact (sendMessage_acked env c msg).mono fun _ _ h => h.mute
  · cases r with
    | ok u => exact hlog _ trivial h
    | error e => exact Within.bind (hlog _ trivial rfl) fun _ => Within.raise _

theorem send_quiet (port : Port) (c : ConnId) (msg : Message) :
    Within Quiet (RMCDispatcher.send env port c msg) := by
  refine Within.bind (Within.attempt (sendMessage_quiet env c msg)) fun r => ?_
  cases r with
  | ok u => exact Srv.log_quiet trivial
  | error e => exact Within.bind (Srv.log_quiet trivial) fun _ => Within.raise _

/-- A message is logged after its packets, and then raises if they did. -/
theorem send_run (port : Port) (c : ConnId) (msg : Message) (w : World) :
    (RMCDispatcher.send env port c msg).run w =
      match (RMCDispatcher.sendMessage env c msg).run w with
      | (.ok _, w1) => (.ok (), { w1 with trace := w1.trace ++ [.sent port c msg] })
      | (.error e, w1) => (.error e, { w1 with trace := w1.trace ++ [.sendFailed port c msg] }) := by
  unfold RMCDispatcher.send
  rw [run_attempt_bind]
  generalize (RMCDispatcher.sendMessage env c msg).run w = out
  obtain ⟨r, w1⟩ := out
  cases r <;> rfl

/-- What sending a message logs: its packets, and last the message. -/
theorem send_trace (port : Port) (c : ConnId) (msg : Message) (w : World) :
    ∃ packets, (∀ e ∈ packets, TraceEntry.IsPacket e) ∧
      (((RMCDispatcher.send env port c msg).after w).trace =
          w.trace ++ (packets ++ [.sent port c msg]) ∨
        ((RMCDispatcher.send env port c msg).after w).trace =
          w.trace ++ (packets ++ [.sendFailed port c msg])) := by
  obtain ⟨packets, hp, hall⟩ := (sendMessage_acked env c msg w).packets
  refine ⟨packets, hall, ?_⟩
  unfold after
  rw [send_run]
  generalize (RMCDispatcher.sendMessage env c msg).run w = out at hp
  obtain ⟨r, w1⟩ := out
  cases r with
  | ok u =>
    left
    show w1.trace ++ [.sent port c msg] = _
    rw [hp, List.append_assoc]
  | error e =>
    right
    show w1.trace ++ [.sendFailed port c msg] = _
    rw [hp, List.append_assoc]

theorem sendRequest_quiet (port : Port) (c : ConnId) (proto method : Nat) (params : Bytes) :
    Within Quiet (RMCDispatcher.sendRequest env port c proto method params) := by
  refine Within.bind Within.get fun w => ?_
  refine Within.bind (Within.modify ?_) fun _ => send_quiet env port c _
  intro w'
  exact Quiet.of_same (fun _ => rfl) ⟨rfl, rfl, rfl, rfl, rfl, rfl⟩ (fun _ h => h)

theorem sendRequest_mute (port : Port) (c : ConnId) (proto method : Nat) (params : Bytes)
    (h : Notification.noticeIn c proto method params = none) :
    Within Mute (RMCDispatcher.sendRequest env port c proto method params) := by
  refine Within.bind Within.get fun w => ?_
  refine Within.bind (Within.modify ?_) fun _ => send_mute env port c _ h
  intro w'
  exact Mute.of_same (fun _ => rfl) ⟨rfl, rfl, rfl, rfl, rfl, rfl⟩ (fun _ h => h)

namespace Notification

theorem pushTo_quiet (port : Port) (remote : Remote) (payload : World → Bytes) :
    Within Quiet (pushTo env port remote payload) := by
  refine Within.bind Within.get fun w => ?_
  split
  · exact Within.pure _
  · exact sendRequest_quiet env port _ _ _ _

theorem broadcast_quiet (port : Port) (recipients : List Participant) (subject type gid : Nat) :
    Within Quiet (broadcast env port recipients subject type gid) := by
  apply Within.forEach
  intro p _
  split
  · exact Within.pure _
  · exact pushTo_quiet env port _ _

theorem pushParticipantsToJoiner_quiet (port : Port) (g : Gathering) (joinerPid : Nat) :
    Within Quiet (pushParticipantsToJoiner env port g joinerPid) := by
  unfold pushParticipantsToJoiner
  split
  · exact Within.pure _
  · refine Within.bind Within.get fun w => ?_
    split
    · exact Within.pure _
    · apply Within.forEach
      intro p _
      exact Within.bind Within.get fun w => sendRequest_quiet env port _ _ _ _

theorem pushStatsProcessed_mute (port : Port) (g : Gathering) (sourcePid : Nat)
    (txnIds : Dict Nat Nat) (careerCash : Dict Nat F32) :
    Within Mute (pushStatsProcessed env port g sourcePid txnIds careerCash) := by
  apply Within.forEach
  intro p _
  refine Within.bind Within.get fun w => ?_
  split
  · exact Within.pure _
  · next c _ =>
    apply sendRequest_mute
    rw [noticeIn_event, changeOf_statsProcessed]
    rfl

end Notification

/-! ## The database -/

namespace Db

theorem read_kept : Within Db.Kept (Db.read env) := by
  refine Within.bind Within.get fun d => Within.bind (Within.modify fun _ _ h => h) fun _ => ?_
  split
  · exact Within.raise _
  · exact Within.pure _

/-- A writing statement that leaves the stats alone. -/
theorem write_kept {f : Tables → Option Tables} (h : ∀ t t', f t = some t' → t'.stats = t.stats) :
    Within Db.Kept (Db.write env f) := by
  refine Within.get_bind fun d => ?_
  refine WithinAt.bind (fun _ h => h) fun u d' hd => ?_
  cases hd
  split
  · exact refl_of Db.Kept _
  · split
    · exact refl_of Db.Kept _
    · next t ht =>
      intro S hS
      exact ⟨(h _ t ht).trans hS.1, hS.2⟩

theorem begin_kept : Within Db.Kept (Db.begin env) := by
  refine Within.bind (write_kept env fun t t' ht => by cases ht; rfl) fun _ => ?_
  refine Within.get_bind fun d => ?_
  split
  · exact refl_of Db.Kept _
  · intro S hS
    refine ⟨hS.1, ?_⟩
    intro t ht
    cases ht
    exact hS.1

theorem commit_kept : Within Db.Kept (Db.commit env) := by
  refine Within.bind (write_kept env fun t t' ht => by cases ht; rfl) fun _ => ?_
  apply Within.modify
  intro d S hS
  exact ⟨hS.1, by intro t ht; cases ht⟩

theorem rollback_kept : Within Db.Kept Db.rollback := by
  apply Within.modify
  intro d S hS
  refine ⟨?_, by intro t ht; cases ht⟩
  cases hs : d.saved with
  | none => exact hS.1
  | some t => exact hS.2 t hs

theorem openDb_kept : Within Db.Kept (Db.openDb env) :=
  Within.bind (read_kept env) fun _ => Within.pure _

theorem dbCon_kept : Within Db.Kept (Db.dbCon env) := by
  refine Within.bind Within.get fun d => ?_
  split
  · exact Within.pure _
  · exact Within.bind (openDb_kept env) fun _ => Within.modify fun _ _ h => h

end Db

theorem allocateAccount_kept (psnId : Str) : Within Db.Kept (allocateAccount env psnId) := by
  refine Within.bind (Db.read_kept env) fun t => ?_
  refine Within.bind (Db.write_kept env fun t t' ht => by cases ht; rfl) fun _ => ?_
  refine Within.bind (Db.write_kept env fun t t' ht => ?_) fun _ => ?_
  · unfold insertAccount at ht
    split at ht
    · cases ht
    · cases ht; rfl
  · exact Within.bind (Db.commit_kept env) fun _ => Within.pure _

theorem findOrCreateAccount_kept (psnId : Str) : Within Db.Kept (findOrCreateAccount env psnId) := by
  refine Within.bind (Db.read_kept env) fun t => ?_
  split
  · exact Within.bind (Db.write_kept env fun t t' ht => by cases ht; rfl) fun _ => Within.pure _
  · refine Within.bind (Db.begin_kept env) fun _ => ?_
    refine Within.bind (Within.attempt (allocateAccount_kept env psnId)) fun r => ?_
    cases r with
    | ok pid => exact Within.pure _
    | error e => exact Within.bind Db.rollback_kept fun _ => Within.raise _

theorem nameForPid_kept (pid : Nat) : Within Db.Kept (nameForPid env pid) :=
  Within.bind (Db.read_kept env) fun _ => Within.pure _

namespace Career

theorem getCareer_kept (pid : Nat) : Within Db.Kept (getCareer env pid) :=
  Within.bind (Db.read_kept env) fun _ => Within.pure _

theorem careerCash_kept (pid : Nat) : Within Db.Kept (careerCash env pid) :=
  Within.bind (getCareer_kept env pid) fun _ => Within.pure _

theorem getLeaderboard_kept (pid cat : Nat) : Within Db.Kept (getLeaderboard env pid cat) :=
  Within.bind (Db.read_kept env) fun _ => Within.pure _

theorem rankedForCategory_kept (cat : Nat) : Within Db.Kept (rankedForCategory env cat) :=
  Within.bind (Db.read_kept env) fun _ => Within.pure _

end Career

/-! ## Registration -/

/-- A handler is within whatever its code behind the parser is. -/
theorem withParsed_within {R : World → World → Prop} [Std.Refl R] {α : Type} (proto : Nat)
    (p : Act Reader Exc α) (request : Request) {k : α → Srv Message} (h : ∀ a, Within R (k a)) :
    Within R (withParsed proto p request k) := by
  unfold withParsed
  split
  · exact Within.pure _
  · exact h _

theorem connectionId_mute (c : ConnId) : Within Mute (SecureConnection.connectionId c) := by
  refine Within.bind (Srv.conn_mute c) fun conn => ?_
  split
  · exact Within.pure _
  · refine Within.bind Within.get fun w => Within.bind (Within.modify ?_) fun _ => ?_
    · intro w'
      exact Mute.of_same (fun _ => rfl) ⟨rfl, rfl, rfl, rfl, rfl, rfl⟩ (fun _ h => h)
    · exact Within.bind (Srv.setConn_mute c _ fun _ => rfl) fun _ => Within.pure _

theorem registerEx_mute (c : ConnId) (request : Request) :
    Within Mute (SecureConnection.registerEx c request) := by
  apply withParsed_within
  intro urls
  refine Within.bind (connectionId_mute c) fun cid => ?_
  refine Within.bind (Srv.conn_mute c) fun conn => ?_
  exact Within.bind (Srv.setConn_mute c _ fun _ => rfl) fun _ => Within.pure _

end Ghostbusters
