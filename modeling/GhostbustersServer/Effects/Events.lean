import GhostbustersServer.Effects.Announce

/-!
# Every event, piece by piece

    Transport env R     R lets pass the pieces around the handlers
    Allows env R        and those that handlers are made of
    Allows.step         every event is within such an R, with uploads and timers to look at
    Allows.step_all     and without them, where stats events are as good as any push
-/

namespace Ghostbusters

open Py Act PRUDPServer

/-- A message, or the failure to send one. -/
def TraceEntry.IsMessage : TraceEntry → Prop
  | .sent _ _ _ | .sendFailed _ _ _ => True
  | _ => False

/-- A connection without what a handshake or its end sets of it. -/
def Connection.unconnected (conn : Connection) : Connection :=
  { conn with
    state := .initial, clientSessionId := 0, clientConnSig := [], lastActivity := 0
    sessionKey := [], userPid := 0 }

variable (env : Env)

/-- What is around the handlers. -/
structure Transport (R : World → World → Prop) : Prop where
  received : ∀ w w', Received w w' → R w w'
  logged : ∀ w e, ¬ e.IsMessage → R w (w.logged e)
  withConn : ∀ w c conn, conn.unconnected = (w.heap c).unconnected → R w (w.withConn c conn)
  evicted : ∀ w port remote, R w (w.evicted port remote)
  opened : ∀ w port remote, R w (w.synReceived env port remote)
  answer : ∀ port c msg, msg.IsAnswer → Within R (RMCDispatcher.send env port c msg)

structure Allows (R : World → World → Prop) : Prop extends Telling env R, Transport env R where
  register : ∀ c req, Within R (SecureConnection.registerEx c req)

variable {env} {R : World → World → Prop} [IsPreorder World R]

namespace Transport

section
variable (h : Transport env R)
include h

theorem sendPacket (c : ConnId) (pkt : PRUDPPacket) :
    Within R (PRUDPServer.sendPacket env c pkt) := by
  refine Within.bind (conn_within c) fun conn => ?_
  split
  · exact Within.modify fun w => h.logged w (.sendto conn.remote pkt) id
  · exact Within.raise _

theorem handleConnect (port : Port) (pkt : PRUDPPacket) (c : ConnId) (w : World)
    (h1 : (w.heap c).state = .synRecv) (h2 : pkt.signature = (w.heap c).serverConnSig) :
    R w ((PRUDPServer.handleConnect env port pkt c).after w) := by
  have hconn : R w (connected env w port pkt c) := by
    unfold connected
    split
    · exact h.withConn w c _ rfl
    · next sessionKey pid check _ =>
      have h3 := h.withConn w c
        { w.established c pkt with sessionKey := sessionKey, userPid := pid } rfl
      exact trans_of R h3 (h.logged _ (.connectAck c) id)
  refine trans_of R hconn ?_
  unfold after
  rw [handleConnect_run env port pkt c w h1 h2]
  exact Within.bind (conn_within c) (fun _ => h.sendPacket c _) _

theorem foldl_evicted (port : Port) (remotes : List Remote) (w : World) :
    R w (remotes.foldl (fun w remote => w.evicted port remote) w) := by
  induction remotes generalizing w with
  | nil => exact refl_of R w
  | cons remote remotes ih => exact trans_of R (h.evicted w port remote) (ih _)

/-- **Every event**, with its request to look at, and timers. -/
theorem step {e : Event} {w : World}
    (hrespond : ∀ port c req, requestOf env w e = some (port, c, req) →
      Within R (RMCDispatcher.respond env port c req))
    (htimer : ∀ id, e = .timer id → Within R (expire env id)) : R w (step env e w) := by
  generalize hw' : Ghostbusters.step env e w = w'
  have hstep := step_cases env e w
  rw [hw'] at hstep
  cases hstep with
  | still hb hr => exact h.received w _ hr
  | @syn port remote pkt _ ht hq =>
    have hrun : w' = (sendSynAck env w.nextConn).after (w.synReceived env port remote) := by
      rw [← hw']
      unfold Ghostbusters.step handleEvent PRUDPServer.handle after
      rw [run_get_bind, ht]
      rfl
    rw [hrun]
    refine trans_of R (h.opened w port remote) ?_
    exact Within.bind (conn_within _) (fun _ => h.sendPacket _ _) _
  | @connect port remote pkt c _ hc hp hq =>
    rw [step_packet env hc.2.1, hc.1] at hw'
    rw [← hw']
    exact h.handleConnect port pkt c w hc.2.2.1 hc.2.2.2
  | @connectAck port remote pkt c sessionKey pid check _ hc hp hq =>
    rw [step_packet env hc.2.1, hc.1] at hw'
    rw [← hw']
    exact h.handleConnect port pkt c w hc.2.2.1 hc.2.2.2
  | @unhandled _ port c body w1 hb hn hr =>
    exact trans_of R (h.received w w1 hr) (h.logged w1 (.onPayload port c body) id)
  | @request _ port c body req w1 hb hreq hr =>
    have h1 : R w (w1.logged (.onPayload port c body)) :=
      trans_of R (h.received w w1 hr) (h.logged w1 (.onPayload port c body) id)
    refine trans_of R h1 ?_
    refine WithinAt.bind (hrespond port c req hreq _) ?_
    intro msg w2 hm
    exact h.answer port c msg (respond_answers env port c req _ msg w2 hm).isAnswer w2
  | @strayDisconnect port remote pkt ht hc => exact h.evicted w port remote
  | @disconnect port remote pkt c w1 ht hc hr =>
    refine trans_of R (h.received w w1 hr) ?_
    refine trans_of R (h.withConn w1 c { w1.heap c with state := .closed } rfl) ?_
    exact h.evicted _ port remote
  | reap => exact h.foldl_evicted _ _ w
  | @timer id => exact htimer id rfl w

end
end Transport

/-- **Every event.** -/
theorem Allows.step (h : Allows env R) {e : Event} {w : World}
    (hreport : ∀ port c req, requestOf env w e = some (port, c, req) → req.Uploads →
      Within R (Game.reportStats env port c req))
    (htimer : ∀ id, e = .timer id → Within R (expire env id)) : R w (Ghostbusters.step env e w) :=
  h.toTransport.step (fun port c req hreq =>
    h.respond port c req (fun _ => h.register c req) (hreport port c req hreq)) htimer

/-! ## Uploads and batches -/

namespace Game

section
variable (hdb : ∀ {α : Type} {m : Act Db Exc α}, Db.Call env m → Within R (Srv.useDb m))
include hdb

/-- What an upload stores. -/
theorem storeReport_within
    (hmatch : ∀ pid vec0 vec1 rows, computeLeaderboardRows vec0 vec1 = .ok rows →
      Within R (Srv.useDb (matchTransaction env pid vec0 rows)))
    (hlog : ∀ pid vec0 rows, Within R (Srv.log (.persisted pid vec0 rows))) (pid : Nat)
    (params : Bytes) : Within R (storeReport env pid params) := by
  refine Within.bind (Within.bind (Within.attempt (hdb (.career pid))) fun _ => Within.pure _) fun v => ?_
  refine Within.bind (Within.ofExcept _) fun prior => ?_
  split
  · exact Within.pure _
  · exact Within.pure _
  · intro w
    refine WithinAt.bind (Within.ofExcept _ w) fun rows w' hr => ?_
    have hrows := (Prod.ext_iff.mp (run_ofExcept _ w ▸ hr)).1
    refine Within.bind ?_ (fun _ => Within.pure _) w'
    refine Within.bind (Within.attempt (hmatch pid _ _ rows hrows)) fun r => ?_
    cases r with
    | error e => exact Within.pure _
    | ok u => exact Within.bind (hlog pid _ rows) fun _ => Within.pure _

/-- What a batch reads and pushes. -/
theorem announceBatch_within (hpush : ∀ port c proto method params,
      Within R (RMCDispatcher.sendRequest env port c proto method params)) (port : Port)
    (g : Gathering) : Within R (announceBatch env port g) := by
  refine Within.bind (Within.bind (Within.mapEach _ ?_) fun _ => Within.pure _) fun cash => ?_
  · exact fun p _ => hdb (.cash p.pid)
  · refine Within.bind Within.get fun w => Within.forEach _ fun p _ => ?_
    refine Within.bind Within.get fun w => ?_
    split
    · exact Within.pure _
    · exact hpush port _ _ _ _

end
end Game

section
variable (h : Allows env R)
  (hmatch : ∀ pid vec0 vec1 rows, Game.computeLeaderboardRows vec0 vec1 = .ok rows →
    Within R (Srv.useDb (Game.matchTransaction env pid vec0 rows)))
  (hpush : ∀ port c proto method params,
    Within R (RMCDispatcher.sendRequest env port c proto method params))
  (hbump : ∀ pid, Within R (Game.bumpTxn pid))
include h hmatch hpush hbump

/-- **Every event**, where stats events are as good as any push. -/
theorem Allows.step_all (e : Event) (w : World) : R w (Ghostbusters.step env e w) := by
  have hbatching : Batching env R :=
    { h.toLobbying with
      batch := fun gid reason roster => Within.modify fun w => h.logged w _ id
      announce := Game.announceBatch_within h.useDb hpush }
  refine h.step (fun port c req _ _ => ?_) fun id _ => expire_within hbatching id
  refine Game.reportStats_within hbatching (Game.storeReport_within h.useDb hmatch fun pid vec0 rows => ?_)
    hbump port c req
  exact Within.modify fun w => h.logged w (.persisted pid vec0 rows) id

end
end Ghostbusters
