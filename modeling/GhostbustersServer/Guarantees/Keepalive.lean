import GhostbustersServer.Guarantees.Bystander
import GhostbustersServer.Guarantees.History
import GhostbustersServer.Py.Components
import GhostbustersServer.Reaper

/-!
# Signs of life

An established connection is a lease that its client renews with every DATA and every PING.

    lease            the idle time of one connection, from the events alone
    lease_exact      over every run, the server's table holds the connection for as long
                     as the lease lasts, and counts the same idle time
    silent_evicted   under the reaper task, nobody stays idle for longer than the timeout,
                     the interval and the lateness of the event loop
    steady_kept      whoever is never silent for longer than the timeout stays
-/

namespace Ghostbusters

open Py Act PRUDPServer Delivery History

namespace Keepalive

variable (env : Env)

/-- The idle time of a connection after an event, `none` if it is gone. -/
def lease (ackable : Nat → Bool) (port : Port) (remote : Remote) (e : Event) (idle : Nat) :
    Option Nat :=
  match e with
  | .elapse dt => some (idle + dt)
  | .timer _ => some idle
  | .reap port' timeout => if port' = port ∧ timeout < idle then none else some idle
  | .packet port' remote' pkt =>
    if port' = port ∧ remote' = remote then
      match pkt.type with
      | .syn => none
      | .data => some 0
      | .ping => some 0
      | .disconnect => if ackable pkt.packetId then none else some idle
      | _ => some idle
    else some idle

/-- The DISCONNECTs of a connection that can be acknowledged, by packet id. -/
def ackable (conn : Connection) (packetId : Nat) : Bool :=
  env.packetEncodes (ackPacket conn .disconnect packetId)

/-- The idle time of connection `c`, if it is in the table. -/
def held (port : Port) (remote : Remote) (c : ConnId) (w : World) : Option Nat :=
  if (w.connections port).get? remote = some c then some (Reaping.idle w c) else none

/-- Whether a packet of a connection is a sign of life. -/
def renews (conn : Connection) (pkt : PRUDPPacket) : Bool :=
  match pkt.type with
  | .connect => conn.state = .synRecv ∧ pkt.signature = conn.serverConnSig
  | .data => conn.state = .established
  | .ping => true
  | _ => false

/-! ## The clock of a connection -/

def pulse (c : ConnId) (w : World) : Nat × Nat := ((w.heap c).lastActivity, w.now)

theorem pulse_of_kept {c : ConnId} {w w' : World} (h : kept c w' = kept c w) :
    pulse c w' = pulse c w :=
  Prod.ext (congrArg (fun k => k.1.lastActivity) h :) (congrArg (fun k => k.2.2) h :)

theorem pulse_of_framed {c : ConnId} {w w' : World} (h : Framed w w') : pulse c w' = pulse c w :=
  pulse_of_kept (kept_of_framed h)

theorem setConn_pulse (c c' : ConnId) {f : Connection → Connection}
    (hf : ∀ conn, (f conn).lastActivity = conn.lastActivity) :
    Within (Fixes (pulse c)) (Srv.setConn c' f) := by
  apply Within.modify
  intro w
  refine Prod.ext ?_ rfl
  show (Function.update w.heap c' _ c).lastActivity = _
  rw [Function.update_apply]
  split
  · next h => rw [hf, h]; rfl
  · rfl

theorem sendAck_pulse (c c' : ConnId) (type : PacketType) (packetId : Nat) :
    Within (Fixes (pulse c)) (sendAck env type c' packetId) :=
  (sendAck_kept env c c' type packetId).mono fun _ _ h => pulse_of_kept h

theorem handleFragment_pulse (port : Port) (c c' : ConnId) (fragmentId : Nat) (body : Bytes) :
    Within (Fixes (pulse c)) (handleFragment env port c' fragmentId body) := by
  refine Within.bind (Within.bind Within.get fun _ => Within.pure _) fun conn => ?_
  split
  · exact setConn_pulse c c' fun _ => rfl
  · refine Within.bind (setConn_pulse c c' fun _ => rfl) fun _ => ?_
    refine Within.bind (Within.modify fun w => rfl) fun _ => ?_
    exact (onPayload_framed env port c' _).mono fun _ _ h => pulse_of_framed h

/-- **DATA renews.** -/
theorem handleData_pulse (port : Port) (pkt : PRUDPPacket) (c : ConnId) (w : World)
    (hs : (w.heap c).state = .established) :
    pulse c ((handleData env port pkt c).after w) = (w.now, w.now) := by
  let w0 := w.withConn c { w.heap c with lastActivity := w.now }
  have hrun : (handleData env port pkt c).after w =
      (if pkt.flags.ack ∧ pkt.payload = [] then pure ()
        else do
          acknowledge env c pkt
          if pkt.payload = [] then pure ()
          else (Payload.open? env pkt.payload).elim (pure ()) fun body =>
            handleFragment env port c pkt.fragmentId body : Srv Unit).after w0 := by
    unfold handleData Srv.conn after
    simp only [run_bind, run_get, run_pure]
    rw [if_neg (fun h => h hs)]
    cases Payload.open? env pkt.payload <;> rfl
  have hw0 : pulse c w0 = (w.now, w.now) := by
    simp only [pulse, w0, World.heap_withConn, if_pos]
    rfl
  rw [hrun, ← hw0]
  refine (?_ : Within (Fixes (pulse c)) _) w0
  split
  · exact Within.pure _
  · refine Within.bind ?_ fun _ => ?_
    · unfold acknowledge
      split
      · exact Within.bind (sendAck_pulse env c c _ _) fun _ => setConn_pulse c c fun _ => rfl
      · exact Within.pure _
    · split
      · exact Within.pure _
      · cases Payload.open? env pkt.payload with
        | none => exact Within.pure _
        | some body => exact handleFragment_pulse env port c c _ body

/-- **So does PING.** -/
theorem handlePing_pulse (pkt : PRUDPPacket) (c : ConnId) (w : World) :
    pulse c ((handlePing env pkt c).after w) = (w.now, w.now) := by
  let w0 := w.withConn c { w.heap c with lastActivity := w.now }
  have hrun : (handlePing env pkt c).after w =
      (if pkt.flags.needAck then sendPingAck env c pkt.packetId else pure () : Srv Unit).after w0 :=
    rfl
  have hw0 : pulse c w0 = (w.now, w.now) := by
    simp only [pulse, w0, World.heap_withConn, if_pos]
    rfl
  rw [hrun, ← hw0]
  refine (?_ : Within (Fixes (pulse c)) _) w0
  split
  · exact sendAck_pulse env c c .ping pkt.packetId
  · exact Within.pure _

/-! ## One event -/

section
variable {port : Port} {remote : Remote} {c : ConnId} {w : World}

theorem held_of_listed (hc : (w.connections port).get? remote = some c) :
    held port remote c w = some (Reaping.idle w c) := if_pos hc

theorem held_of_unlisted (hc : (w.connections port).get? remote ≠ some c) :
    held port remote c w = none := if_neg hc

theorem ackable_of_identity {conn conn' : Connection} (h : conn'.identity = conn.identity) :
    ackable env conn' = ackable env conn := (congrArg (ackable env) h :)

/-- A DISCONNECT that cannot be acknowledged changes nothing. -/
theorem disconnect_unackable {pkt : PRUDPPacket} (hc : (w.connections port).get? remote = some c)
    (ht : pkt.type = .disconnect) (hack : ackable env (w.heap c) pkt.packetId = false) :
    step env (.packet port remote pkt) w = w := by
  rw [step_packet env hc pkt, ht]
  dsimp only
  rw [handleDisconnect_spec, if_neg]
  unfold ackable at hack
  rw [hack]
  exact Bool.false_ne_true

/-- Whom a DISCONNECT hangs up. -/
theorem mem_hangups_disconnect {pkt : PRUDPPacket} (hc : (w.connections port).get? remote = some c)
    (ht : pkt.type = .disconnect) :
    remote ∈ hangups env w (.packet port remote pkt) ↔ ackable env (w.heap c) pkt.packetId = true := by
  unfold hangups ackable
  simp only [ht, hc, Option.mem_def, Option.some.injEq, forall_eq', true_and]
  split <;> simp_all

/-- An established connection that stays in the table keeps its session. -/
theorem identity_of_listed (hs : Sound w) (hc : (w.connections port).get? remote = some c)
    (hest : (w.heap c).state = .established) (e : Event)
    (hend : ((step env e w).connections port).get? remote = some c) :
    ((step env e w).heap c).identity = (w.heap c).identity := by
  have hwait : ∀ {port' remote' pkt}, ¬ Connects w port' remote' pkt c := by
    rintro port' remote' pkt ⟨-, -, hsyn, -⟩
    cases hest.symm.trans hsyn
  generalize hw' : step env e w = w' at hend ⊢
  have hsessions := step_sessions env e hs.indexed
  rw [hw'] at hsessions
  cases hsessions with
  | same _ hsame _ _ => exact hsame c
  | opened _ _ hothers _ _ _ => exact hothers c (Nat.ne_of_lt (hs.lt port remote c hc))
  | @established _ _ _ c' _ hconn _ _ hothers _ _ _ =>
    exact hothers c fun he => hwait (he ▸ hconn)
  | @proved _ _ _ c' _ _ _ _ hconn _ _ hothers _ _ _ =>
    exact hothers c fun he => hwait (he ▸ hconn)
  | @closed port' remote' pkt c' _ ht hc' _ hothers _ _ _ =>
    by_cases he : c = c'
    · subst he
      obtain ⟨rfl, rfl⟩ := (placed_of_listed hs hc).place port' remote' hc'
      -- still in the table: the acknowledgment could not be sent
      have hstays := (step_table env (.packet port' remote' pkt) hs port' remote' c).mp
        (by rw [hw']; exact hend)
      have hack : ackable env (w.heap c) pkt.packetId = false := by
        rcases hstays with ⟨-, -, hsyn, -⟩ | ⟨-, hnot⟩
        · cases ht.symm.trans hsyn
        · rw [← Bool.not_eq_true]
          exact fun h => hnot ⟨rfl, rfl, .inr ((mem_hangups_disconnect env hc ht).mpr h)⟩
      rw [← hw', disconnect_unackable env hc ht hack]
    · exact hothers c he

/-- **The clock of a connection** after one of its own packets, if it is still there. -/
theorem own_pulse (hs : Sound w) (hc : (w.connections port).get? remote = some c)
    (pkt : PRUDPPacket)
    (hend : ((step env (.packet port remote pkt) w).connections port).get? remote = some c) :
    pulse c (step env (.packet port remote pkt) w) =
      if renews (w.heap c) pkt then (w.now, w.now) else pulse c w := by
  have hstays := (step_table env (.packet port remote pkt) hs port remote c).mp hend
  have hstep := step_packet env hc pkt
  cases ht : pkt.type with
  | syn =>
    rcases hstays with ⟨-, -, -, hnew⟩ | ⟨-, hnot⟩
    · exact absurd hnew (Nat.ne_of_lt (hs.lt port remote c hc))
    · exact absurd ⟨rfl, rfl, .inl ht⟩ hnot
  | connect =>
    rw [hstep, ht]
    dsimp only
    by_cases h : (w.heap c).state = .synRecv ∧ pkt.signature = (w.heap c).serverConnSig
    · have hpulse : pulse c (connected env w port pkt c) = (w.now, w.now) := by
        unfold connected
        split
        · simp only [pulse, World.heap_withConn, if_pos]
          rfl
        · simp only [pulse, World.logged, World.heap_withConn, if_pos]
          rfl
      rw [pulse_of_framed (handleConnect_spec env port pkt c w h.1 h.2).toQuiet.framed, hpulse]
      simp [renews, ht, h]
    · rw [handleConnect_refused env port pkt c w (not_and_or.mp h)]
      simp [renews, ht, h]
  | data =>
    rw [hstep, ht]
    dsimp only
    by_cases hest : (w.heap c).state = .established
    · rw [handleData_pulse env port pkt c w hest]
      simp [renews, ht, hest]
    · have hw : (handleData env port pkt c).after w = w := by
        unfold handleData Srv.conn after
        simp only [run_bind, run_get, run_pure]
        rw [if_pos hest]
        rfl
      rw [hw]
      simp [renews, ht, hest]
  | ping =>
    rw [hstep, ht]
    dsimp only
    rw [handlePing_pulse env pkt c w]
    simp [renews, ht]
  | disconnect =>
    have hack : ackable env (w.heap c) pkt.packetId = false := by
      rcases hstays with ⟨-, -, hsyn, -⟩ | ⟨-, hnot⟩
      · cases ht.symm.trans hsyn
      · rw [← Bool.not_eq_true]
        exact fun h => hnot ⟨rfl, rfl, .inr ((mem_hangups_disconnect env hc ht).mpr h)⟩
    rw [disconnect_unackable env hc ht hack]
    simp [renews, ht]
  | other code =>
    rw [hstep, ht]
    simp [renews, ht]

end

/-- **The invariant of a lease.** -/
structure Leased (acks : Nat → Bool) (port : Port) (remote : Remote) (c : ConnId) (w : World) : Prop
    extends Placed port remote c w where
  running : (w.connections port).get? remote = some c →
    (w.heap c).state = .established ∧ (w.heap c).lastActivity ≤ w.now ∧
      ackable env (w.heap c) = acks

section
variable {acks : Nat → Bool} {port : Port} {remote : Remote} {c : ConnId} {w : World}

/-- A connection that is still there, with its new clock. -/
theorem Leased.step_listed (h : Leased env acks port remote c w)
    (hc : (w.connections port).get? remote = some c) {e : Event} {idle' : Nat}
    (hend : ((step env e w).connections port).get? remote = some c)
    (hpulse : (pulse c (step env e w)).1 ≤ (pulse c (step env e w)).2 ∧
      (pulse c (step env e w)).2 - (pulse c (step env e w)).1 = idle') :
    held port remote c (step env e w) = some idle' ∧ Leased env acks port remote c (step env e w) := by
  obtain ⟨hest, hle, hack⟩ := h.running hc
  have hid := identity_of_listed env h.sound hc hest e hend
  refine ⟨?_, h.toPlaced.step env e, fun _ => ⟨?_, hpulse.1, ?_⟩⟩
  · rw [held_of_listed hend, ← hpulse.2]
    rfl
  · rw [state_of_identity hid]
    exact hest
  · rw [ackable_of_identity env hid]
    exact hack

/-- One that is gone is gone for good. -/
theorem Leased.step_unlisted (h : Leased env acks port remote c w) {e : Event}
    (hend : ((step env e w).connections port).get? remote ≠ some c) :
    held port remote c (step env e w) = none ∧ Leased env acks port remote c (step env e w) :=
  ⟨held_of_unlisted hend, h.toPlaced.step env e, fun hc => absurd hc hend⟩

/-- **One event, of anybody.** -/
theorem Leased.step (h : Leased env acks port remote c w) (e : Event) :
    held port remote c (Ghostbusters.step env e w) =
      (held port remote c w).bind (lease acks port remote e) ∧
    Leased env acks port remote c (Ghostbusters.step env e w) := by
  by_cases hc : (w.connections port).get? remote = some c
  swap
  · rw [held_of_unlisted hc]
    exact h.step_unlisted env fun hend => hc (get?_step env e h.sound h.lt hend)
  obtain ⟨hest, hle, hack⟩ := h.running hc
  have htable := step_table env e h.sound port remote c
  have hstays : ¬ HangsUp env port remote e w →
      ((Ghostbusters.step env e w).connections port).get? remote = some c := fun hn =>
    htable.mpr (.inr ⟨hc, hn⟩)
  have hgoes : ¬ Opens port remote c e w → HangsUp env port remote e w →
      ((Ghostbusters.step env e w).connections port).get? remote ≠ some c := fun ho hg hend =>
    (htable.mp hend).elim ho fun hk => hk.2 hg
  -- the clock of a connection that the event does not concern
  have hquiet : own port remote e = none → (∀ dt, e ≠ .elapse dt) →
      (pulse c (Ghostbusters.step env e w)).1 ≤ (pulse c (Ghostbusters.step env e w)).2 ∧
        (pulse c (Ghostbusters.step env e w)).2 - (pulse c (Ghostbusters.step env e w)).1 =
          Reaping.idle w c := by
    intro ho htick
    rw [pulse_of_kept (step_kept env e (Nat.ne_of_lt h.lt) (h.none_own ho) htick)]
    exact ⟨hle, rfl⟩
  rw [held_of_listed hc, Option.bind_some]
  cases e with
  | elapse dt =>
    refine h.step_listed env hc (hstays id) ⟨?_, ?_⟩
    · exact Nat.le_add_right_of_le hle
    · show w.now + dt - (w.heap c).lastActivity = Reaping.idle w c + dt
      unfold Reaping.idle
      omega
  | timer id => exact h.step_listed env hc (hstays fun hf => hf) (hquiet rfl nofun)
  | reap port' timeout =>
    have hevicts : remote ∈ hangups env w (.reap port' timeout) ↔
        ∃ c, (w.connections port').get? remote = some c ∧ timeout < Reaping.idle w c :=
      (Reaping.mem_staleRemotes h.sound port' timeout remote).trans
        (Reaping.evicts_iff w port' timeout remote)
    have hhang : HangsUp env port remote (.reap port' timeout) w ↔
        port' = port ∧ timeout < Reaping.idle w c := by
      refine and_congr_right fun hp => ?_
      rw [hevicts, hp, hc]
      simp
    show _ = (if port' = port ∧ timeout < Reaping.idle w c then none else some _) ∧ _
    by_cases hg : port' = port ∧ timeout < Reaping.idle w c
    · rw [if_pos hg]
      exact h.step_unlisted env (hgoes id (hhang.mpr hg))
    · rw [if_neg hg]
      exact h.step_listed env hc (hstays fun hk => hg (hhang.mp hk)) (hquiet rfl nofun)
  | packet port' remote' pkt =>
    show _ = (if port' = port ∧ remote' = remote then _ else some _) ∧ _
    by_cases hown : port' = port ∧ remote' = remote
    swap
    · rw [if_neg hown]
      refine h.step_listed env hc (hstays fun hk => hown ⟨hk.1, hk.2.1⟩) (hquiet (if_neg hown) nofun)
    rw [if_pos hown]
    obtain ⟨rfl, rfl⟩ := hown
    have hnew : ¬ Opens port' remote' c (.packet port' remote' pkt) w := fun ho =>
      Nat.ne_of_lt h.lt ho.2.2.2
    have hkeep : pkt.type ≠ .syn → pkt.type ≠ .disconnect →
        ((Ghostbusters.step env (.packet port' remote' pkt) w).connections port').get? remote' =
          some c := by
      intro hsyn hdisconnect
      refine hstays ?_
      rintro ⟨-, -, hk | hk⟩
      · exact hsyn hk
      · rw [show hangups env w (.packet port' remote' pkt) = [] from
          if_neg fun hd => hdisconnect hd.1] at hk
        cases hk
    have hpulse := own_pulse env h.sound hc pkt
    cases ht : pkt.type with
    | syn => exact h.step_unlisted env (hgoes hnew ⟨rfl, rfl, .inl ht⟩)
    | connect =>
      have hend := hkeep (by rw [ht]; decide) (by rw [ht]; decide)
      refine h.step_listed env hc hend ?_
      rw [hpulse hend, if_neg (by simp [renews, ht, hest])]
      exact ⟨hle, rfl⟩
    | data =>
      have hend := hkeep (by rw [ht]; decide) (by rw [ht]; decide)
      refine h.step_listed env hc hend ?_
      rw [hpulse hend, if_pos (by simp [renews, ht, hest])]
      exact ⟨Nat.le_refl _, Nat.sub_self _⟩
    | ping =>
      have hend := hkeep (by rw [ht]; decide) (by rw [ht]; decide)
      refine h.step_listed env hc hend ?_
      rw [hpulse hend, if_pos (by simp [renews, ht])]
      exact ⟨Nat.le_refl _, Nat.sub_self _⟩
    | disconnect =>
      have hmem := mem_hangups_disconnect env hc ht
      rw [hack] at hmem
      dsimp only
      by_cases hd : acks pkt.packetId = true
      · rw [if_pos hd]
        exact h.step_unlisted env (hgoes hnew ⟨rfl, rfl, .inr (hmem.mpr hd)⟩)
      · rw [if_neg hd]
        have hend := hstays (by
          rintro ⟨-, -, hk | hk⟩
          · cases ht.symm.trans hk
          · exact hd (hmem.mp hk))
        refine h.step_listed env hc hend ?_
        rw [hpulse hend, if_neg (by simp [renews, ht])]
        exact ⟨hle, rfl⟩
    | other code =>
      have hend := hkeep (by rw [ht]; nofun) (by rw [ht]; nofun)
      refine h.step_listed env hc hend ?_
      rw [hpulse hend, if_neg (by simp [renews, ht])]
      exact ⟨hle, rfl⟩

end

/-! ## Every run -/

/-- No clock of a connection in a table is ahead. -/
def Clocked (w : World) : Prop :=
  ∀ port remote c, (w.connections port).get? remote = some c → (w.heap c).lastActivity ≤ w.now

/-- Nobody but its own client is heard of on a connection. -/
theorem lastActivity_of_placed {port : Port} {remote : Remote} {c : ConnId} {w : World}
    (h : Placed port remote c w) {e : Event} (hown : own port remote e = none) :
    ((step env e w).heap c).lastActivity = (w.heap c).lastActivity := by
  by_cases htick : ∃ dt, e = .elapse dt
  · obtain ⟨dt, rfl⟩ := htick
    rfl
  · have hkept := step_kept env e (Nat.ne_of_lt h.lt) (h.none_own hown)
      fun dt he => htick ⟨dt, he⟩
    exact (congrArg Prod.fst (pulse_of_kept hkept) :)

/-- The clock of a connection after an event: it has been heard of, or it was there before. -/
theorem step_clock (e : Event) {w : World} (hs : Sound w) {port : Port} {remote : Remote} {c : ConnId}
    (hend : ((step env e w).connections port).get? remote = some c) :
    ((step env e w).heap c).lastActivity = w.now ∨
      ((w.connections port).get? remote = some c ∧
        ((step env e w).heap c).lastActivity = (w.heap c).lastActivity) := by
  rcases (step_table env e hs port remote c).mp hend with ho | ⟨hc, -⟩
  · left
    cases e with
    | packet port' remote' pkt =>
      obtain ⟨rfl, rfl, ht, rfl⟩ := ho
      have hstep : step env (.packet port' remote' pkt) w = (handleSyn env port' remote').after w := by
        unfold step handleEvent handle after
        rw [run_get_bind]
        simp only [ht]
      have hq := (handleSyn_spec env port' remote' w).toQuiet.framed
      have hsame : (((handleSyn env port' remote').after w).heap w.nextConn).lastActivity =
          ((w.synReceived env port' remote').heap w.nextConn).lastActivity :=
        (congrArg Connection.lastActivity (hq.core w.nextConn) :)
      rw [hstep, hsame]
      simp only [World.synReceived, Function.update_self]
      rfl
    | reap => exact ho.elim
    | timer => exact ho.elim
    | elapse => exact ho.elim
  · have hplaced := placed_of_listed hs hc
    cases hown : own port remote e with
    | none => exact .inr ⟨hc, lastActivity_of_placed env hplaced hown⟩
    | some pkt =>
      have he : e = .packet port remote pkt := eq_of_own hown
      subst he
      have hpulse := own_pulse env hs hc pkt hend
      split at hpulse
      · exact .inl (congrArg Prod.fst hpulse :)
      · exact .inr ⟨hc, (congrArg Prod.fst hpulse :)⟩

theorem now_le_step (e : Event) (w : World) : w.now ≤ (step env e w).now := by
  rw [step_now]
  split
  · exact Nat.le_add_right _ _
  · exact Nat.le_refl _

theorem step_clocked (e : Event) {w : World} (hs : Sound w) (h : Clocked w) :
    Clocked (step env e w) := by
  intro port remote c hend
  refine Nat.le_trans ?_ (now_le_step env e w)
  rcases step_clock env e hs hend with hnow | ⟨hc, hold⟩
  · exact hnow.le
  · rw [hold]
    exact h port remote c hc

theorem reachable_clocked (es : List Event) :
    Sound (runs (step env) es World.initial) ∧ Clocked (runs (step env) es World.initial) :=
  runs_preserves (I := fun w => Sound w ∧ Clocked w)
    (fun e _ h => ⟨step_sound env e h.1, step_clocked env e h.1 h.2⟩) es _
    ⟨World.initial_sound, nofun⟩

theorem leased_of_listed {w : World} (hs : Sound w) (hcl : Clocked w) {port : Port} {remote : Remote}
    {c : ConnId} (hc : (w.connections port).get? remote = some c)
    (hest : (w.heap c).state = .established) :
    Leased env (ackable env (w.heap c)) port remote c w :=
  ⟨placed_of_listed hs hc, fun _ => ⟨hest, hcl port remote c hc, rfl⟩⟩

/-- **A connection is a lease.**  From any reachable state on, and whatever everybody does,
an established connection is in the table for as long as its lease lasts, and its idle time
is that of the lease. -/
theorem lease_exact (past es : List Event) (port : Port) (remote : Remote) (c : ConnId)
    (hc : ((runs (step env) past World.initial).connections port).get? remote = some c)
    (hest : ((runs (step env) past World.initial).heap c).state = .established) :
    held port remote c (runs (step env) (past ++ es) World.initial) =
      runs (fun e idle => idle.bind (lease
          (ackable env ((runs (step env) past World.initial).heap c)) port remote e)) es
        (some (Reaping.idle (runs (step env) past World.initial) c)) := by
  obtain ⟨hs, hcl⟩ := reachable_clocked env past
  rw [runs_append, ← held_of_listed hc]
  exact runs_view (fun e _ h => (h.step env e).2) (fun e _ h => (h.step env e).1) es _
    (leased_of_listed env hs hcl hc hest)

/-! ## Under the reaper -/

variable (tick : Nat)

/-- A visit to both servers keeps exactly who has not been idle for too long, and touches
neither a connection nor the clock. -/
structure Visited (timeout : Nat) (w w' : World) : Prop where
  table : ∀ port remote c, (w'.connections port).get? remote = some c ↔
    (w.connections port).get? remote = some c ∧ Reaping.idle w c ≤ timeout
  heap : w'.heap = w.heap
  now : w'.now = w.now

theorem visit_spec {w : World} (hs : Sound w) :
    Visited (idleTimeoutSeconds * tick) w (runs (step env) (reaperVisit tick) w) := by
  have h1 := hs.reap env .auth (idleTimeoutSeconds * tick)
  have hs1 := step_sound env (.reap .auth (idleTimeoutSeconds * tick)) hs
  have h2 := hs1.reap env .secure (idleTimeoutSeconds * tick)
  show Visited _ w (step env (.reap .secure _) (step env (.reap .auth _) w))
  generalize step env (.reap .auth (idleTimeoutSeconds * tick)) w = w1 at h1 h2
  generalize step env (.reap .secure (idleTimeoutSeconds * tick)) w1 = w2 at h2
  have hheap1 : w1.heap = w.heap := by rw [h1.rest]
  have hnow1 : w1.now = w.now := by rw [h1.rest]
  have hheap2 : w2.heap = w1.heap := by rw [h2.rest]
  have hnow2 : w2.now = w1.now := by rw [h2.rest]
  have hidle : ∀ c, Reaping.idle w1 c = Reaping.idle w c := fun c => by
    unfold Reaping.idle
    rw [hheap1, hnow1]
  refine ⟨fun port remote c => ?_, hheap2.trans hheap1, hnow2.trans hnow1⟩
  cases port with
  | auth => rw [h2.others .auth (by decide), h1.table]
  | secure => rw [h2.table, hidle, h1.others .secure (by decide)]

/-- **The invariant of the reaper task.**  Its wait times out before anybody can have been
idle for longer than the timeout and the interval. -/
structure Timed (p : Process) : Prop where
  sound : Sound p.world
  clocked : Clocked p.world
  due_le : p.due ≤ p.world.now + reapIntervalSeconds * tick
  fresh : ∀ port remote c, (p.world.connections port).get? remote = some c →
    p.due ≤ (p.world.heap c).lastActivity + (idleTimeoutSeconds + reapIntervalSeconds) * tick

theorem Timed.event {p : Process} (h : Timed tick p) (e : Event) :
    Timed tick { p with world := step env e p.world } where
  sound := step_sound env e h.sound
  clocked := step_clocked env e h.sound h.clocked
  due_le := h.due_le.trans (Nat.add_le_add_right (now_le_step env e p.world) _)
  fresh := by
    intro port remote c hend
    rcases step_clock env e h.sound hend with hnow | ⟨hc, hold⟩
    · rw [hnow, Nat.add_mul]
      exact h.due_le.trans (Nat.add_le_add_left (Nat.le_add_left _ _) _)
    · rw [hold]
      exact h.fresh port remote c hc

theorem Timed.visit {p : Process} (h : Timed tick p) :
    Timed tick { world := runs (step env) (reaperVisit tick) p.world
                 due := p.world.now + reapIntervalSeconds * tick } := by
  have hv := visit_spec env tick h.sound
  have hs : Sound (runs (step env) (reaperVisit tick) p.world) :=
    runs_preserves (fun e _ hs => step_sound env e hs) _ _ h.sound
  refine ⟨hs, ?_, ?_, ?_⟩
  · intro port remote c hc
    rw [hv.heap, hv.now]
    exact h.clocked port remote c ((hv.table port remote c).mp hc).1
  · exact (Nat.add_le_add_right hv.now.ge _)
  · intro port remote c hc
    obtain ⟨hold, hidle⟩ := (hv.table port remote c).mp hc
    have hle := h.clocked port remote c hold
    show p.world.now + _ ≤ ((runs (step env) (reaperVisit tick) p.world).heap c).lastActivity + _
    rw [hv.heap, Nat.add_mul]
    unfold Reaping.idle at hidle
    omega

theorem Timed.act {p : Process} (h : Timed tick p) (a : Activity) :
    Timed tick (p.act env tick a) := by
  cases a with
  | packet port remote pkt => exact h.event env tick (.packet port remote pkt)
  | timer id => exact h.event env tick (.timer id)
  | elapse dt => exact h.event env tick (.elapse dt)
  | wake =>
    unfold Process.act Activity.events
    dsimp only
    split
    · exact h.visit env tick
    · exact h

theorem start_timed : Timed tick (Process.start tick) where
  sound := World.initial_sound
  clocked := nofun
  due_le := Nat.le_add_left _ _
  fresh := nofun

theorem reachable_timed (as : List Activity) :
    Timed tick (runs (Process.act env tick) as (Process.start tick)) :=
  runs_preserves (fun a _ h => h.act env tick a) as _ (start_timed tick)

/-- Nobody is idle for longer than the timeout, the interval and the lateness of the loop. -/
theorem Timed.idle_le {p : Process} (h : Timed tick p) {late : Nat} (hlate : p.world.now ≤ p.due + late)
    {port : Port} {remote : Remote} {c : ConnId}
    (hc : (p.world.connections port).get? remote = some c) :
    Reaping.idle p.world c ≤ (idleTimeoutSeconds + reapIntervalSeconds) * tick + late := by
  have hfresh := h.fresh port remote c hc
  unfold Reaping.idle
  omega

/-- **Nobody stays silent for long.**  Whatever clients do, at any moment at which the event
loop is behind with the reaper by no more than `late`, no connection of either port has been
idle for longer than the timeout, the interval and `late`. -/
theorem silent_evicted (as : List Activity) (late : Nat)
    (hlate : (runs (Process.act env tick) as (Process.start tick)).world.now ≤
      (runs (Process.act env tick) as (Process.start tick)).due + late)
    (port : Port) (remote : Remote) (c : ConnId)
    (hc : ((runs (Process.act env tick) as (Process.start tick)).world.connections port).get? remote =
      some c) :
    Reaping.idle (runs (Process.act env tick) as (Process.start tick)).world c ≤
      (idleTimeoutSeconds + reapIntervalSeconds) * tick + late :=
  (reachable_timed env tick as).idle_le tick hlate hc

/-! ## Who is heard of stays -/

/-- For how long the client of a connection has not been heard of. -/
def silence (port : Port) (remote : Remote) (a : Activity) (n : Nat) : Nat :=
  match a with
  | .elapse dt => n + dt
  | .packet port' remote' pkt =>
    if port' = port ∧ remote' = remote ∧ (pkt.type = .data ∨ pkt.type = .ping) then 0 else n
  | _ => n

section
variable {acks : Nat → Bool} {port : Port} {remote : Remote} {c : ConnId}

theorem lease_packet {port' : Port} {remote' : Remote} {pkt : PRUDPPacket}
    (hstay : port' = port → remote' = remote → pkt.type ≠ .syn ∧ pkt.type ≠ .disconnect) (n : Nat) :
    lease acks port remote (.packet port' remote' pkt) n =
      some (silence port remote (.packet port' remote' pkt) n) := by
  unfold lease silence
  dsimp only
  by_cases hown : port' = port ∧ remote' = remote
  · obtain ⟨hsyn, hdisconnect⟩ := hstay hown.1 hown.2
    rw [if_pos hown]
    cases ht : pkt.type with
    | syn => exact absurd ht hsyn
    | disconnect => exact absurd ht hdisconnect
    | connect => simp
    | data => simp [hown]
    | ping => simp [hown]
    | other code => simp
  · rw [if_neg hown, if_neg fun h => hown ⟨h.1, h.2.1⟩]

theorem Leased.event {w : World} (h : Leased env acks port remote c w) {n m : Nat}
    (hheld : held port remote c w = some n) {e : Event} (he : lease acks port remote e n = some m) :
    Leased env acks port remote c (Ghostbusters.step env e w) ∧
      held port remote c (Ghostbusters.step env e w) = some m := by
  obtain ⟨hstep, hnext⟩ := h.step env e
  rw [hheld, Option.bind_some, he] at hstep
  exact ⟨hnext, hstep⟩

/-- An activity of a client that stays, before its lease is over. -/
theorem act_held {p : Process} {n : Nat} (h : Leased env acks port remote c p.world)
    (hheld : held port remote c p.world = some n) (hn : n ≤ idleTimeoutSeconds * tick)
    {a : Activity} (hstay : ∀ pkt, a = .packet port remote pkt →
      pkt.type ≠ .syn ∧ pkt.type ≠ .disconnect) :
    Leased env acks port remote c (p.act env tick a).world ∧
      held port remote c (p.act env tick a).world = some (silence port remote a n) := by
  cases a with
  | packet port' remote' pkt =>
    refine h.event env hheld (lease_packet ?_ n)
    rintro rfl rfl
    exact hstay pkt rfl
  | timer id => exact h.event env (e := .timer id) hheld rfl
  | elapse dt => exact h.event env (e := .elapse dt) hheld rfl
  | wake =>
    have hreap : ∀ port', lease acks port remote (.reap port' (idleTimeoutSeconds * tick)) n =
        some n := fun port' => if_neg fun hk => Nat.not_lt.mpr hn hk.2
    unfold Process.act Activity.events
    dsimp only
    split
    · obtain ⟨h1, hheld1⟩ := h.event env hheld (hreap .auth)
      exact h1.event env hheld1 (hreap .secure)
    · exact ⟨h, hheld⟩

theorem acts_held (as : List Activity) {p : Process} {n : Nat}
    (h : Leased env acks port remote c p.world) (hheld : held port remote c p.world = some n)
    (hstay : ∀ pkt, Activity.packet port remote pkt ∈ as →
      pkt.type ≠ .syn ∧ pkt.type ≠ .disconnect)
    (hsteady : ∀ k ≤ as.length, runs (silence port remote) (as.take k) n ≤
      idleTimeoutSeconds * tick) :
    held port remote c (runs (Process.act env tick) as p).world =
      some (runs (silence port remote) as n) := by
  induction as generalizing p n with
  | nil => exact hheld
  | cons a as ih =>
    obtain ⟨hnext, hheld'⟩ := act_held env tick h hheld (hsteady 0 (Nat.zero_le _))
      fun pkt ha => hstay pkt (ha ▸ List.mem_cons_self)
    refine ih hnext hheld' (fun pkt hm => hstay pkt (List.mem_cons_of_mem _ hm)) fun k hk => ?_
    exact hsteady (k + 1) (Nat.succ_le_succ hk)

end

/-- **Whoever is heard of stays.**  An established connection whose client neither starts
again nor disconnects, and is at no moment silent for longer than the timeout, is still in
the table at the end, whatever the reaper and the other clients have done. -/
theorem steady_kept (past as : List Activity) (port : Port) (remote : Remote) (c : ConnId)
    (hc : ((runs (Process.act env tick) past (Process.start tick)).world.connections port).get? remote
      = some c)
    (hest : ((runs (Process.act env tick) past (Process.start tick)).world.heap c).state =
      .established)
    (hstay : ∀ pkt, Activity.packet port remote pkt ∈ as →
      pkt.type ≠ .syn ∧ pkt.type ≠ .disconnect)
    (hsteady : ∀ k ≤ as.length, runs (silence port remote) (as.take k)
      (Reaping.idle (runs (Process.act env tick) past (Process.start tick)).world c) ≤
        idleTimeoutSeconds * tick) :
    held port remote c (runs (Process.act env tick) (past ++ as) (Process.start tick)).world =
      some (runs (silence port remote) as
        (Reaping.idle (runs (Process.act env tick) past (Process.start tick)).world c)) := by
  have h := reachable_timed env tick past
  rw [runs_append]
  exact acts_held env tick as (leased_of_listed env h.sound h.clocked hc hest) (held_of_listed hc)
    hstay hsteady

/-! ## A client that pings once a minute -/

/-- A handshake on the authentication port. -/
def handshake : List Event :=
  [.packet .auth (Sample.remote 1) Sample.syn, .packet .auth (Sample.remote 1) (Sample.connect [])]

theorem lease_exact_lapsed :
    held .auth (Sample.remote 1) 0 (runs (step Sample.env)
        (handshake ++ [.elapse 100, .reap .auth 90]) World.initial) =
      runs (fun e idle => idle.bind (lease
          (ackable Sample.env ((runs (step Sample.env) handshake World.initial).heap 0))
            .auth (Sample.remote 1) e)) [.elapse 100, .reap .auth 90]
        (some (Reaping.idle (runs (step Sample.env) handshake World.initial) 0)) :=
  lease_exact Sample.env handshake _ .auth (Sample.remote 1) 0 (by decide +kernel)
    (by decide +kernel)

def signOn : List Activity :=
  [.packet .auth (Sample.remote 1) Sample.syn, .packet .auth (Sample.remote 1) (Sample.connect [])]

/-- A ping after a minute, and another minute. -/
def minutes : List Activity :=
  [.elapse 60, .wake, .packet .auth (Sample.remote 1) { type := .ping }, .elapse 60, .wake]

theorem silent_evicted_minutes :
    Reaping.idle (runs (Process.act Sample.env 1) (signOn ++ minutes) (Process.start 1)).world 0 ≤
      (idleTimeoutSeconds + reapIntervalSeconds) * 1 + 0 :=
  silent_evicted Sample.env 1 (signOn ++ minutes) 0 (by decide +kernel) .auth (Sample.remote 1) 0
    (by decide +kernel)

theorem steady_kept_minutes :
    held .auth (Sample.remote 1) 0
        (runs (Process.act Sample.env 1) (signOn ++ minutes) (Process.start 1)).world =
      some (runs (silence .auth (Sample.remote 1)) minutes
        (Reaping.idle (runs (Process.act Sample.env 1) signOn (Process.start 1)).world 0)) :=
  steady_kept Sample.env 1 signOn minutes .auth (Sample.remote 1) 0 (by decide +kernel)
    (by decide +kernel) (by simp [minutes]) (by decide +kernel)

end Keepalive
end Ghostbusters
