import GhostbustersServer.Effects.Events

/-!
# Who hands out ids

    Inert w w'       no message was sent, and no id handed out: of a connection, of a push or
                     of a transaction
    Admits env R     R lets pass what is inert, every kind of message, registrations and SYNs

    Admits.step      every event is within such an R, with uploads and timers to look at
-/

namespace Ghostbusters

open Py Act PRUDPServer

structure Inert (w w' : World) : Prop where
  rvConnectionId : ∀ c, (w'.heap c).rvConnectionId = (w.heap c).rvConnectionId
  stationUrls : ∀ c, (w'.heap c).stationUrls = (w.heap c).stationUrls
  nextConnectionId : w'.nextConnectionId = w.nextConnectionId
  serverCallId : w'.serverCallId = w.serverCallId
  statsTxnId : w'.statsTxnId = w.statsTxnId
  log : LogGrows (fun e => ¬ e.IsMessage) w w'

instance : IsPreorder World Inert where
  refl := fun w => ⟨fun _ => rfl, fun _ => rfl, rfl, rfl, rfl, LogGrows.refl _ w⟩
  trans := fun _ _ _ h1 h2 =>
    ⟨fun c => (h2.rvConnectionId c).trans (h1.rvConnectionId c),
      fun c => (h2.stationUrls c).trans (h1.stationUrls c),
      h2.nextConnectionId.trans h1.nextConnectionId, h2.serverCallId.trans h1.serverCallId,
      h2.statsTxnId.trans h1.statsTxnId, h1.log.trans h2.log⟩

variable (env : Env)

namespace Inert

/-- A state that differs in what `Inert` does not look at. -/
theorem of_same {w w' : World} (hheap : w'.heap = w.heap)
    (hrest : w'.nextConnectionId = w.nextConnectionId ∧ w'.serverCallId = w.serverCallId ∧
      w'.statsTxnId = w.statsTxnId ∧ w'.trace = w.trace) : Inert w w' :=
  ⟨fun _ => by rw [hheap], fun _ => by rw [hheap], hrest.1, hrest.2.1, hrest.2.2.1,
    .of_same hrest.2.2.2⟩

theorem logged (w : World) {e : TraceEntry} (h : ¬ e.IsMessage) : Inert w (w.logged e) :=
  ⟨fun _ => rfl, fun _ => rfl, rfl, rfl, rfl, [e], rfl, by simpa using h⟩

theorem withConn (w : World) (c : ConnId) (conn : Connection)
    (hid : conn.rvConnectionId = (w.heap c).rvConnectionId)
    (hurls : conn.stationUrls = (w.heap c).stationUrls) : Inert w (w.withConn c conn) := by
  refine ⟨fun k => ?_, fun k => ?_, rfl, rfl, rfl, .of_same rfl⟩
  · rw [World.heap_withConn]
    split
    · next hk => rw [hk, hid]
    · rfl
  · rw [World.heap_withConn]
    split
    · next hk => rw [hk, hurls]
    · rfl

theorem of_received {w w' : World} (h : Received w w') : Inert w w' := by
  have hid : ∀ k, (w'.heap k).rvConnectionId = (w.heap k).rvConnectionId := fun k =>
    (congrArg Connection.rvConnectionId (h.session k) :)
  refine ⟨hid, h.stationUrls, ?_, ?_, ?_, h.packets.mono ?_⟩
  · rw [h.rest]
  · rw [h.rest]
  · rw [h.rest]
  · intro e he hm
    cases e <;> first | exact he.elim | exact hm.elim

theorem evicted (w : World) (port : Port) (remote : Remote) : Inert w (w.evicted port remote) :=
  ⟨fun _ => rfl, fun _ => rfl, rfl, rfl, rfl, [_], rfl, by simp [TraceEntry.IsMessage]⟩

theorem sendPacket (c : ConnId) (pkt : PRUDPPacket) :
    Within Inert (PRUDPServer.sendPacket env c pkt) := by
  refine Within.bind (conn_within c) fun conn => ?_
  split
  · exact Within.modify fun w => logged w (e := .sendto conn.remote pkt) id
  · exact Within.raise _

/-- The packets of a message, below the message. -/
theorem sendMessage (c : ConnId) (msg : Message) :
    Within Inert (RMCDispatcher.sendMessage env c msg) := by
  refine Within.bind (Within.ofExcept _) fun body => ?_
  refine Within.bind (conn_within c) fun conn => ?_
  refine Within.bind (conn_within c) fun conn => ?_
  refine Within.bind (Within.modify fun w => ?_) fun _ => sendPacket env c _
  exact withConn w c _ rfl rfl

/-- What a message leaves: its packets are out, and then it is in the log. -/
theorem send_after (port : Port) (c : ConnId) (msg : Message) (w : World) :
    ∃ w1, Inert w w1 ∧
      (((RMCDispatcher.send env port c msg).run w = (.ok (), w1.logged (.sent port c msg))) ∨
        ∃ e, (RMCDispatcher.send env port c msg).run w =
          (.error e, w1.logged (.sendFailed port c msg))) := by
  have h := sendMessage env c msg w
  unfold WithinAt at h
  rw [send_run]
  generalize (RMCDispatcher.sendMessage env c msg).run w = out at h
  obtain ⟨r, w1⟩ := out
  cases r with
  | ok u => exact ⟨w1, h, .inl rfl⟩
  | error e => exact ⟨w1, h, .inr ⟨e, rfl⟩⟩

end Inert

/-- A registration touches its connection and the counter of their ids. -/
theorem registerEx_fixes (c : ConnId) (req : Request) :
    Within (Fixes fun w : World => (w.trace, w.serverCallId, w.statsTxnId))
      (SecureConnection.registerEx c req) := by
  apply withParsed_within
  intro urls
  refine Within.bind ?_ fun cid => Within.bind (conn_within c) fun conn => ?_
  · refine Within.bind (conn_within c) fun conn => ?_
    split
    · exact Within.pure _
    · refine Within.bind Within.get fun w => Within.bind (Within.modify fun _ => rfl) fun _ => ?_
      exact Within.bind (Within.modify fun _ => rfl) fun _ => Within.pure _
  · exact Within.bind (Within.modify fun _ => rfl) fun _ => Within.pure _

/-! ## Relations that let everything pass -/

/-- All that handlers are made of, but stats events. -/
structure Passes (R : World → World → Prop) : Prop where
  inert : ∀ w w', Inert w w' → R w w'
  push : ∀ port c proto method params, proto ≠ Notification.proto →
    Within R (RMCDispatcher.sendRequest env port c proto method params)
  event : ∀ port c source type param1 param2 text, type < 2 ^ 32 →
    type ≠ Notification.eventStatsProcessed →
    Within R (RMCDispatcher.sendRequest env port c Notification.proto
      Notification.methodProcessEvent
      (Notification.buildNotificationEvent source type param1 param2 text))

structure Admits (R : World → World → Prop) : Prop extends Passes env R where
  register : ∀ c req, Within R (SecureConnection.registerEx c req)
  answer : ∀ port c msg, msg.IsAnswer → Within R (RMCDispatcher.send env port c msg)
  opened : ∀ w port remote, R w (w.synReceived env port remote)

variable {env} {R : World → World → Prop}

theorem Passes.telling (h : Passes env R) : Telling env R where
  useDb := fun _ w => h.inert w _ (.of_same rfl ⟨rfl, rfl, rfl, rfl⟩)
  random := fun _ w => h.inert w _ (.of_same rfl ⟨rfl, rfl, rfl, rfl⟩)
  push := h.push
  modifyLobby := fun _ w => h.inert w _ (.of_same rfl ⟨rfl, rfl, rfl, rfl⟩)
  event := h.event

theorem Admits.allows (h : Admits env R) : Allows env R where
  toTelling := h.telling
  received := fun w w' hr => h.inert w w' (.of_received hr)
  logged := fun w _ he => h.inert w _ (.logged w he)
  withConn := fun w c conn hc =>
    h.inert w _ (.withConn w c conn (congrArg Connection.rvConnectionId hc :)
      (congrArg Connection.stationUrls hc :))
  evicted := fun w port remote => h.inert w _ (.evicted w port remote)
  opened := h.opened
  answer := h.answer
  register := h.register

variable [IsPreorder World R]

/-- **Every event.** -/
theorem Admits.step (h : Admits env R) {e : Event} {w : World}
    (hreport : ∀ port c req, requestOf env w e = some (port, c, req) → req.Uploads →
      Within R (Game.reportStats env port c req))
    (htimer : ∀ id, e = .timer id → Within R (expire env id)) : R w (step env e w) :=
  h.allows.step hreport htimer

/-- What an upload stores is no message. -/
theorem Inert.storeReport (pid : Nat) (params : Bytes) :
    Within Inert (Game.storeReport env pid params) := by
  refine Game.storeReport_within (fun _ w => .of_same rfl ⟨rfl, rfl, rfl, rfl⟩)
    (fun _ _ _ _ _ w => .of_same rfl ⟨rfl, rfl, rfl, rfl⟩) (fun pid vec0 rows => Within.modify fun w => ?_) pid params
  exact logged w id

section
variable (h : Passes env R)
  (hpush : ∀ port c proto method params,
    Within R (RMCDispatcher.sendRequest env port c proto method params))
  (hbump : ∀ pid, Within R (Game.bumpTxn pid))
include h hpush

theorem Passes.batching : Batching env R where
  toLobbying := h.telling.toLobbying
  batch := fun _ _ _ => Within.modify fun w => h.inert w _ (Inert.logged w id)
  announce := Game.announceBatch_within (fun _ w => h.inert w _ (.of_same rfl ⟨rfl, rfl, rfl, rfl⟩))
    hpush

include hbump

theorem Passes.reportStats (port : Port) (c : ConnId) (req : Request) :
    Within R (Game.reportStats env port c req) :=
  Game.reportStats_within (h.batching hpush)
    (fun pid params => (Inert.storeReport pid params).mono h.inert) hbump port c req

/-- **Every request**, where stats events are as good as any push. -/
theorem Passes.respond (port : Port) (c : ConnId) (req : Request)
    (hregister : req.Registers → Within R (SecureConnection.registerEx c req)) :
    Within R (RMCDispatcher.respond env port c req) :=
  h.telling.respond port c req hregister fun _ => h.reportStats hpush hbump port c req

end

/-- **Every event**, likewise. -/
theorem Admits.step_all (h : Admits env R)
    (hpush : ∀ port c proto method params,
      Within R (RMCDispatcher.sendRequest env port c proto method params))
    (hbump : ∀ pid, Within R (Game.bumpTxn pid)) (e : Event) (w : World) :
    R w (Ghostbusters.step env e w) :=
  h.step (fun port c req _ _ => h.toPasses.reportStats hpush hbump port c req)
    (fun id _ => expire_within (h.toPasses.batching hpush) id)

end Ghostbusters
