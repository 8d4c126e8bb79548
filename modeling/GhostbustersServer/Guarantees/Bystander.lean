import GhostbustersServer.Effects.Sessions
import GhostbustersServer.Guarantees.Delivery

/-!
# What the events of others leave of a connection

All clients share one socket, one lobby registry and one database; their packets
interleave in any order with each other, with the reaper and with timers.

    kept c w        a connection but for its packet counter and its URLs, what has been
                    delivered on it, and the time
    step_kept       an event that is no packet of the connection leaves all of it
    Placed          a connection is listed for its own client or for nobody, for good
-/

namespace Ghostbusters

open Py Act PRUDPServer Delivery

variable (env : Env)

def kept (c : ConnId) (w : World) : Connection × List Bytes × Nat :=
  ((w.heap c).core, delivered c w, w.now)

theorem kept_of_framed {c : ConnId} {w w' : World} (h : Framed w w') : Fixes (kept c) w w' :=
  Prod.ext (h.core c)
    (Prod.ext (delivered_of_grows h.log fun _ => bodyIn_fromHandler) h.now)

/-! ## The pieces -/

theorem setConn_kept {c c' : ConnId} (hne : c' ≠ c) (f : Connection → Connection) :
    Within (Fixes (kept c)) (Srv.setConn c' f) := by
  apply Within.modify
  intro w
  simp only [Fixes, kept, Function.update_of_ne hne.symm]
  rfl

theorem log_kept {c : ConnId} {e : TraceEntry} (h : bodyIn c e = none) :
    Within (Fixes (kept c)) (Srv.log e) := by
  apply Within.modify
  intro w
  have hsame : delivered c (w.logged e) = delivered c w :=
    delivered_of_grows (K := fun x => x = e) ⟨[e], rfl, by simp⟩ fun x hx => by rw [hx, h]
  exact Prod.ext rfl (Prod.ext hsame rfl)

theorem conn_kept (c c' : ConnId) : Within (Fixes (kept c)) (Srv.conn c') :=
  Within.bind Within.get fun _ => Within.pure _

theorem sendPacket_kept (c c' : ConnId) (pkt : PRUDPPacket) :
    Within (Fixes (kept c)) (sendPacket env c' pkt) :=
  (sendPacket_acked env c' pkt).mono fun _ _ h => kept_of_framed h.toQuiet.framed

theorem sendAck_kept (c c' : ConnId) (type : PacketType) (packetId : Nat) :
    Within (Fixes (kept c)) (sendAck env type c' packetId) :=
  Within.bind (conn_kept c c') fun _ => sendPacket_kept env c c' _

section
variable {c c' : ConnId} (hne : c' ≠ c)
include hne

theorem touch_kept : Within (Fixes (kept c)) (touch c') :=
  Within.bind Within.get fun _ => setConn_kept hne _

theorem handleConnect_kept (port : Port) (pkt : PRUDPPacket) :
    Within (Fixes (kept c)) (handleConnect env port pkt c') := by
  have hack : Within (Fixes (kept c)) (connectAckPayload env c' pkt.payload) := by
    refine Within.bind (conn_kept c c') fun conn => ?_
    split
    · exact Within.pure _
    · split
      · exact Within.pure _
      · exact Within.bind (setConn_kept hne _) fun _ => Within.bind (log_kept rfl) fun _ =>
          Within.pure _
  have hsend : ∀ payload, Within (Fixes (kept c)) (sendConnectAck env c' pkt.packetId payload) :=
    fun payload => Within.bind (conn_kept c c') fun _ => sendPacket_kept env c c' _
  refine Within.bind (conn_kept c c') fun conn => ?_
  split
  · exact Within.pure _
  · refine Within.bind (setConn_kept hne _) fun _ => Within.bind (touch_kept hne) fun _ => ?_
    split
    · exact Within.bind hack hsend
    · exact hsend []

theorem deliver_kept (port : Port) (body : Bytes) :
    Within (Fixes (kept c)) (deliver env port c' body) := by
  refine Within.bind (log_kept ?_) fun _ => ?_
  · exact if_neg hne
  · exact (onPayload_framed env port c' body).mono fun _ _ h => kept_of_framed h

theorem handleData_kept (port : Port) (pkt : PRUDPPacket) :
    Within (Fixes (kept c)) (handleData env port pkt c') := by
  refine Within.bind (conn_kept c c') fun conn => ?_
  split
  · exact Within.pure _
  · refine Within.bind (touch_kept hne) fun _ => ?_
    split
    · exact Within.pure _
    · refine Within.bind ?_ fun _ => ?_
      · unfold acknowledge
        split
        · exact Within.bind (sendAck_kept env c c' _ _) fun _ => setConn_kept hne _
        · exact Within.pure _
      · split
        · exact Within.pure _
        · split
          · exact Within.pure _
          · refine Within.bind (conn_kept c c') fun conn => ?_
            split
            · exact setConn_kept hne _
            · exact Within.bind (setConn_kept hne _) fun _ => deliver_kept env hne port _

theorem handlePing_kept (pkt : PRUDPPacket) : Within (Fixes (kept c)) (handlePing env pkt c') := by
  refine Within.bind (touch_kept hne) fun _ => ?_
  split
  · exact sendAck_kept env c c' _ _
  · exact Within.pure _

end

/-- Hooks and table entries: no connection object changes. -/
theorem evict_kept (c : ConnId) (port : Port) (remote : Remote) :
    Within (Fixes (kept c)) (evict port remote) := by
  have hmod : ∀ f : World → World,
      (∀ w, (f w).heap = w.heap ∧ (f w).trace = w.trace ∧ (f w).now = w.now) →
      Within (Fixes (kept c)) (Act.modify f : Srv Unit) := by
    intro f hf
    apply Within.modify
    intro w
    obtain ⟨hheap, htrace, hnow⟩ := hf w
    show ((f w).heap c |>.core, (f w).trace.filterMap (bodyIn c), (f w).now) = _
    rw [hheap, htrace, hnow]
    rfl
  refine Within.bind (Within.bind (log_kept rfl) fun _ => ?_) fun _ => hmod _ fun _ => ⟨rfl, rfl, rfl⟩
  exact Within.bind (hmod _ fun _ => ⟨rfl, rfl, rfl⟩) fun _ => hmod _ fun _ => ⟨rfl, rfl, rfl⟩

theorem handleSyn_kept {c : ConnId} (port : Port) (remote : Remote) {w : World}
    (hc : c ≠ w.nextConn) : WithinAt (Fixes (kept c)) (handleSyn env port remote) w := by
  have hq := handleSyn_spec env port remote w
  refine (kept_of_framed (c := c) hq.toQuiet.framed).trans ?_
  refine Prod.ext ?_ rfl
  show Connection.core (Function.update w.heap w.nextConn _ c) = (w.heap c).core
  rw [Function.update_of_ne hc]

/-! ## One event -/

/-- **Any event that is no packet of the connection**, and no tick of the clock. -/
theorem step_kept {c : ConnId} {w : World} (e : Event) (hc : c ≠ w.nextConn)
    (hother : ∀ port remote pkt, e = .packet port remote pkt →
      (w.connections port).get? remote ≠ some c) (htick : ∀ dt, e ≠ .elapse dt) :
    kept c (step env e w) = kept c w := by
  show WithinAt (Fixes (kept c)) (handleEvent env e) w
  cases e with
  | packet port remote pkt =>
    have hne : ∀ c', (w.connections port).get? remote = some c' → c' ≠ c := by
      rintro c' hc' rfl
      exact hother port remote pkt rfl hc'
    unfold handleEvent handle
    refine WithinAt.bind (Within.get w) fun w' _ hw => ?_
    cases hw
    dsimp only
    split
    · exact handleSyn_kept env port remote hc
    · next c' _ hc' => exact handleConnect_kept env (hne c' hc') port pkt w
    · next c' _ hc' => exact handleData_kept env (hne c' hc') port pkt w
    · next c' _ hc' => exact handlePing_kept env (hne c' hc') pkt w
    · unfold handleDisconnect
      split
      · exact evict_kept c port remote w
      · next c' hc' =>
        have hclose := Within.bind (setConn_kept (hne c' hc') fun conn =>
          { conn with state := .closed }) fun _ => evict_kept c port remote
        exact Within.bind (sendAck_kept env c c' .disconnect pkt.packetId) (fun _ => hclose) w
    · rfl
  | reap port timeout =>
    exact Within.bind Within.get
      (fun w => Within.forEach _ fun remote _ => evict_kept c port remote) w
  | timer id => exact kept_of_framed (expire_spec env id w).framed
  | elapse dt => exact absurd rfl (htick dt)

/-- Time passes when it is said to, and only then. -/
theorem step_now (e : Event) (w : World) :
    (step env e w).now = match e with
      | .elapse dt => w.now + dt
      | _ => w.now := by
  -- some connection that the event is not about
  obtain ⟨c, hc, hother⟩ : ∃ c, c ≠ w.nextConn ∧ ∀ port remote pkt, e = .packet port remote pkt →
      (w.connections port).get? remote ≠ some c := by
    cases e with
    | packet port remote pkt =>
      cases hget : (w.connections port).get? remote with
      | none =>
        refine ⟨w.nextConn + 1, Nat.succ_ne_self _, ?_⟩
        rintro _ _ _ ⟨rfl, rfl, rfl⟩ h
        cases hget.symm.trans h
      | some c' =>
        have hlt := Nat.lt_succ_of_le (Nat.le_max_left w.nextConn c')
        have hlt' := Nat.lt_succ_of_le (Nat.le_max_right w.nextConn c')
        refine ⟨max w.nextConn c' + 1, Nat.ne_of_gt hlt, ?_⟩
        rintro _ _ _ ⟨rfl, rfl, rfl⟩ h
        exact Nat.ne_of_lt hlt' (Option.some.inj (hget.symm.trans h))
    | reap port timeout => exact ⟨w.nextConn + 1, Nat.succ_ne_self _, nofun⟩
    | timer id => exact ⟨w.nextConn + 1, Nat.succ_ne_self _, nofun⟩
    | elapse dt => exact ⟨w.nextConn + 1, Nat.succ_ne_self _, nofun⟩
  have hkept := fun htick => (congrArg (fun k => k.2.2) (step_kept env e hc hother htick) :)
  cases e with
  | packet port remote pkt => exact hkept nofun
  | reap port timeout => exact hkept nofun
  | timer id => exact hkept nofun
  | elapse dt => rfl

/-! ## Every run -/

/-- The packets that a connection's client sends to its port. -/
def own (port : Port) (remote : Remote) : Event → Option PRUDPPacket
  | .packet port' remote' pkt => if port' = port ∧ remote' = remote then some pkt else none
  | _ => none

theorem eq_of_own {port : Port} {remote : Remote} {e : Event} {pkt : PRUDPPacket}
    (h : own port remote e = some pkt) : e = .packet port remote pkt := by
  unfold own at h
  split at h
  · split at h
    · next hp =>
      obtain ⟨rfl, rfl⟩ := hp
      rw [Option.some.inj h]
    · cases h
  · cases h

/-- A connection that is not new is listed where it was listed before. -/
theorem get?_step {c : ConnId} {w : World} (e : Event) (hs : Sound w) (hc : c < w.nextConn)
    {port : Port} {remote : Remote}
    (h : ((step env e w).connections port).get? remote = some c) :
    (w.connections port).get? remote = some c := by
  cases step_sessions env e hs.indexed with
  | same _ _ hfew _ => exact hfew port remote c h
  | opened _ _ _ _ hconn _ =>
    rw [hconn] at h
    rcases World.of_get?_synReceived h with ⟨-, -, rfl⟩ | hold
    · exact absurd hc (Nat.lt_irrefl _)
    · exact hold
  | established _ _ _ _ _ hconn _ =>
    rw [hconn] at h
    exact h
  | proved _ _ _ _ _ hconn _ =>
    rw [hconn] at h
    exact h
  | closed _ _ _ _ _ hfew _ => exact hfew port remote c h

theorem nextConn_step (e : Event) {w : World} (hs : Sound w) :
    w.nextConn ≤ (step env e w).nextConn := by
  cases step_sessions env e hs.indexed with
  | same hn _ _ _ => exact hn.ge
  | opened _ hn _ _ _ _ =>
    rw [hn]
    exact Nat.le_succ _
  | established _ _ hn _ _ _ _ => exact hn.ge
  | proved _ _ hn _ _ _ _ => exact hn.ge
  | closed _ _ hn _ _ _ _ => exact hn.ge

/-- A connection that is listed for one client, if it is listed at all. -/
structure Placed (port : Port) (remote : Remote) (c : ConnId) (w : World) : Prop where
  sound : Sound w
  lt : c < w.nextConn
  place : ∀ port' remote', (w.connections port').get? remote' = some c → port' = port ∧ remote' = remote

theorem placed_of_listed {port : Port} {remote : Remote} {c : ConnId} {w : World} (hs : Sound w)
    (hc : (w.connections port).get? remote = some c) : Placed port remote c w := by
  refine ⟨hs, hs.lt port remote c hc, fun port' remote' h => ?_⟩
  obtain ⟨hport, hremote⟩ := hs.home port remote c hc
  obtain ⟨hport', hremote'⟩ := hs.home port' remote' c h
  exact ⟨hport'.symm.trans hport, hremote'.symm.trans hremote⟩

section
variable {port : Port} {remote : Remote} {c : ConnId}

theorem Placed.step (e : Event) {w : World} (h : Placed port remote c w) :
    Placed port remote c (Ghostbusters.step env e w) where
  sound := step_sound env e h.sound
  lt := Nat.lt_of_lt_of_le h.lt (nextConn_step env e h.sound)
  place := fun port' remote' hget => h.place port' remote' (get?_step env e h.sound h.lt hget)

/-- An event that is none of its packets is no packet of the connection. -/
theorem Placed.none_own {e : Event} (ho : own port remote e = none) {w : World}
    (h : Placed port remote c w) : ∀ port' remote' pkt, e = .packet port' remote' pkt →
      (w.connections port').get? remote' ≠ some c := by
  rintro port' remote' pkt rfl hget
  have hown : own port remote (.packet port' remote' pkt) = some pkt :=
    if_pos (h.place port' remote' hget)
  rw [hown] at ho
  cases ho

end

end Ghostbusters
