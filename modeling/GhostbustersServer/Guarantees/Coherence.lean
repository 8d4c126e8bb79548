import GhostbustersServer.Guarantees.Address
import GhostbustersServer.Guarantees.History
import GhostbustersServer.Guarantees.Pushed
import GhostbustersServer.Guarantees.Sample

/-!
# A participant and its connection

Pushes and close hooks know a participant by its listed address, and look no further than
the table of the port they are on.

    Coherent w       the address is that of the participant's connection, and leads to it
    Served e w       what is pushed to a participant goes to its connection, and but for a
                     request only the close of that connection takes it out
    InPlace e w      what an event must not do for that: join again from elsewhere, start a
                     listed connection again, close its address on the other port, push to
                     it from the other port
    coherent_iff     a run is coherent, and all its events serve, exactly when all are in place
-/

namespace Ghostbusters
namespace Coherence

open Py Act PRUDPServer Address Transactions Pushed

variable (env : Env)

/-- A participant of a live lobby, and the connection it joined with last. -/
def Seated (w : World) (p : Participant) (c : ConnId) : Prop :=
  ∃ gid g, w.lobby.get gid = some g ∧ p ∈ g.participants ∧ p.conn = some c

/-- **Of every state.** -/
structure Coherent (w : World) : Prop where
  address : ∀ p c, Seated w p c → p.remote = (w.heap c).remote
  reached : ∀ p c, Seated w p c → (w.connections (w.heap c).localPort).get? p.remote = some c

/-! ## Whom an event is pushed to -/

/-- The participants of a batch, if the cash of all of them can be read. -/
def batchAudience (w : World) (g : Gathering) : List Participant :=
  ((Game.readCash env g).run w.db).1.toOption.elim [] fun _ => g.participants

/-- The participants that the handler of a request looks up by their remote. -/
def requestAudience (w : World) (port : Port) (c : ConnId) (req : Request) : List Participant :=
  let pid := (w.heap c).userPid
  if req.proto = 60 ∧ req.method = 5 then
    (Game.admitted w pid req).elim [] fun g => (w.joined c g).participants
  else if req.proto = 60 ∧ req.method = 16 then
    ((w.lobby.get (leadingGid req)).filter fun g => pid ∈ g.pids).elim []
      fun g => (w.left c g).participants
  else if req.proto = 21 ∧ req.method = 36 then
    ((w.lobby.get (leadingGid req)).filter fun g => pid = g.ownerPid).elim []
      fun g => (w.left c g).participants
  else if req.Probes then []
  else (completedBy env w port c req).elim []
    fun r => batchAudience env (Game.counted env pid req.params w) r.2

/-- The participants that an event looks up, in the table of this port. -/
def audience (e : Event) (w : World) : List (Port × Participant) :=
  match requestOf env w e, e with
  | some (port, c, req), _ => (requestAudience env w port c req).map fun p => (port, p)
  | none, .timer id => (timedOut w id).elim [] fun r => (batchAudience env w r.2).map fun p => (r.1, p)
  | none, _ => []

/-! ## What an event must do, and what it takes -/

/-- The port that a packet comes in on, or that is reaped. -/
def visited : Event → Option Port
  | .packet port _ _ => some port
  | .reap port _ => some port
  | _ => none

/-- The close of a connection: its port's table leads to it, and the event takes the entry
out and runs the hooks for it. -/
def Closes (e : Event) (w : World) (c : ConnId) : Prop :=
  visited e = some (w.heap c).localPort ∧ (w.heap c).remote ∈ hangups env w e ∧ Live w c

/-- **Of every event.** -/
structure Served (e : Event) (w : World) : Prop where
  /-- a push to a participant finds its connection -/
  found : ∀ port p, (port, p) ∈ audience env e w → ∀ c, p.conn = some c →
    (w.connections port).get? p.remote = some c
  /-- and every notification that goes out goes to that of a participant -/
  sent : ∀ rs, Sends w (step env e w) rs → ∀ r ∈ rs, r.2.2.proto = Notification.proto →
    ∃ p, (r.1, p) ∈ audience env e w ∧ p.conn = some r.2.1
  /-- whom no request has taken out has been closed, or its lobby has gone with the host's
  address and its own has not hung up -/
  removed : requestOf env w e = none → ∀ gid g, w.lobby.get gid = some g →
    ∀ p ∈ g.participants, ∀ c, p.conn = some c →
      ((∀ g', (step env e w).lobby.get gid = some g' → p ∉ g'.participants) ↔
        Closes env e w c ∨ g.ownerRemote ∈ hangups env w e ∧ p.remote ∉ hangups env w e)

/-- **The condition on an event.** -/
structure InPlace (e : Event) (w : World) : Prop where
  /-- whoever is let into a lobby it is listed in comes from where it is listed -/
  rejoins : RejoinsInPlace env e w
  /-- no SYN replaces the connection of a participant -/
  stays : ∀ port remote pkt, e = .packet port remote pkt → pkt.type = .syn →
    ∀ p c, Seated w p c → (w.heap c).localPort = port → p.remote ≠ remote
  /-- no address hangs up on a port that its participants are not connected to -/
  hangsUp : ∀ p c, Seated w p c → p.remote ∈ hangups env w e → visited e = some (w.heap c).localPort
  /-- the server pushes on the port that the participants are connected to -/
  pushes : ∀ port p, (port, p) ∈ audience env e w → ∀ c, p.conn = some c → (w.heap c).localPort = port

/-! ## One event -/

/-- Who is listed behind an event was listed before it, or has just asked to be. -/
theorem listed_back {e : Event} {w : World} (hw : w.lobby.registry.WellIndexed) {gid : Nat}
    {g' : Gathering} (hg' : (step env e w).lobby.get gid = some g') {p : Participant}
    (hin : p ∈ g'.participants) :
    (∃ g, w.lobby.get gid = some g ∧ p ∈ g.participants ∧ p.remote ∉ hangups env w e) ∨
      ∃ port c req, requestOf env w e = some (port, c, req) ∧ p.conn = some c := by
  cases hreq : requestOf env w e with
  | none =>
    left
    obtain ⟨g1, hg1, hm⟩ := (step_hangups env hreq hw).members.back hg'
    obtain ⟨g, hg, -, rfl⟩ := (Lobby.get_gone hw (hangups env w e) gid g1).mp hg1
    rw [← show _ = g'.participants from (congrArg Gathering.participants hm :)] at hin
    obtain ⟨hold, hstays⟩ := List.mem_filter.mp hin
    exact ⟨g, hg, hold, of_decide_eq_true hstays⟩
  | some r =>
    obtain ⟨port, c, req⟩ := r
    have hnone : p.remote ∉ hangups env w e := by
      rw [hangups_of_request env hreq]
      exact List.not_mem_nil
    obtain ⟨op, hp, hop⟩ := step_performs env hreq hw
    rw [hop] at hg'
    rcases op.back hw hg' with ⟨g, hg, -, hps⟩ | ⟨pid, remote, raw, conn, hop', -, rfl⟩
    · generalize g'.participants = qs at hps hin
      cases hps with
      | kept hsub => exact .inl ⟨g, hg, hsub.subset hin, hnone⟩
      | @joined _ _ _ k hop' =>
        subst hop'
        cases hp with
        | join g1 h1 h2 hadm =>
          rcases GatheringRegistry.mem_joined hin with hold | ⟨-, hconn, -⟩
          · exact .inl ⟨g, hg, hold, hnone⟩
          · exact .inr ⟨port, c, req, rfl, hconn⟩
    · subst hop'
      cases hp with
      | create h1 h2 =>
        rw [List.mem_singleton.mp hin]
        exact .inr ⟨port, c, req, rfl, rfl⟩

/-- An entry of a table that is neither replaced nor hung up stays. -/
theorem live_step {e : Event} {w : World} (hs : Sound w) {c : ConnId} (hlive : Live w c)
    (hsyn : ∀ port remote pkt, e = .packet port remote pkt → pkt.type = .syn →
      (w.heap c).localPort = port → (w.heap c).remote ≠ remote)
    (hup : (w.heap c).remote ∉ hangups env w e) : Live (step env e w) c := by
  obtain ⟨hport, hremote⟩ := (step_aged env e hs.indexed).home c (hs.lt _ _ c hlive)
  unfold Live
  rw [hport, hremote, History.step_table env e hs]
  refine .inr ⟨hlive, fun h => ?_⟩
  cases e with
  | packet port remote pkt =>
    obtain ⟨rfl, rfl, ht | hhang⟩ := h
    · exact hsyn _ _ pkt rfl ht rfl rfl
    · exact hup hhang
  | reap port timeout => exact hup h.2
  | timer id => exact h
  | elapse dt => exact h

/-- **The invariant.** -/
structure Inv (w : World) : Prop where
  sound : Sound w
  bounded : Offers.Bounded w
  coherent : Coherent w
  joined : ∀ gid g, w.lobby.get gid = some g → ∀ p ∈ g.participants, p.conn ≠ none

theorem Inv.live {w : World} (h : Inv w) {p : Participant} {c : ConnId} (hp : Seated w p c) :
    Live w c := by
  have hreached := h.coherent.reached p c hp
  rw [h.coherent.address p c hp] at hreached
  exact hreached

theorem Inv.sits {w : World} (h : Inv w) (gid : Nat) (g : Gathering) (hg : w.lobby.get gid = some g) :
    ∀ p ∈ g.participants, Sits w p := by
  intro p hin c hc
  have hp : Seated w p c := ⟨gid, g, hg, hin, hc⟩
  exact ⟨h.sound.lt _ _ c (h.live hp), (h.coherent.address p c hp).symm⟩

/-- A request comes on a connection that its port's table leads to. -/
theorem live_of_requestOf {e : Event} {w : World} (hs : Sound w) {port : Port} {c : ConnId}
    {req : Request} (hreq : requestOf env w e = some (port, c, req)) : Live w c := by
  obtain ⟨-, rfl, hc⟩ := hs.of_requestOf env hreq
  exact hc

/-- The connection of whoever is listed behind an event is live. -/
theorem live_of_seated {e : Event} {w : World} (h : Inv w) (hp : InPlace env e w) {p : Participant}
    {c : ConnId} (hseated : Seated (step env e w) p c) : Live (step env e w) c := by
  obtain ⟨gid, g', hg', hin, hc⟩ := hseated
  rcases listed_back env h.sound.indexed hg' hin with ⟨g, hg, hold, hstays⟩ | ⟨port, k, req, hreq, hk⟩
  · have hbefore : Seated w p c := ⟨gid, g, hg, hold, hc⟩
    have haddr := h.coherent.address p c hbefore
    rw [haddr] at hstays
    refine live_step env h.sound (h.live hbefore) (fun port remote pkt he ht hport => ?_) hstays
    rw [← haddr]
    exact hp.stays port remote pkt he ht p c hbefore hport
  · cases hk.symm.trans hc
    refine live_step env h.sound (live_of_requestOf env h.sound hreq) ?_ ?_
    · rintro port' remote pkt rfl ht
      cases (requestOf_syn env w port' remote ht).symm.trans hreq
    · rw [hangups_of_request env hreq]
      exact List.not_mem_nil

theorem address_of_seated {e : Event} {w : World} (h : Inv w) (hp : InPlace env e w) {p : Participant}
    {c : ConnId} (hseated : Seated (step env e w) p c) : p.remote = ((step env e w).heap c).remote := by
  obtain ⟨gid, g', hg', hin, hc⟩ := hseated
  obtain ⟨op, hperf, hop⟩ := step_lobby env e h.sound.indexed
  rw [hop] at hg'
  have hsits := (sits_apply env h.sound h.sits hp.rejoins hperf hg' hin).aged
    (step_aged env e h.sound.indexed)
  exact (hsits c hc).2.symm

theorem step_inv {e : Event} {w : World} (h : Inv w) (hp : InPlace env e w) : Inv (step env e w) := by
  refine ⟨step_sound env e h.sound, Offers.step_bounded env e h.bounded,
    ⟨fun p c hseated => address_of_seated env h hp hseated, fun p c hseated => ?_⟩,
    fun gid g' hg' p hin => ?_⟩
  · rw [address_of_seated env h hp hseated]
    exact live_of_seated env h hp hseated
  · rcases listed_back env h.sound.indexed hg' hin with ⟨g, hg, hold, -⟩ | ⟨port, c, req, -, hc⟩
    · exact h.joined gid g hg p hold
    · rw [hc]
      exact Option.some_ne_none c

/-! ## The close of an address -/

/-- Who is no longer listed, though nobody has asked, was at an address that has hung up, or
in the lobby of one. -/
theorem removed_iff {e : Event} {w : World} (hw : w.lobby.registry.WellIndexed)
    (hn : requestOf env w e = none) {gid : Nat} {g : Gathering} (hg : w.lobby.get gid = some g)
    {p : Participant} (hin : p ∈ g.participants) :
    (∀ g', (step env e w).lobby.get gid = some g' → p ∉ g'.participants) ↔
      p.remote ∈ hangups env w e ∨ g.ownerRemote ∈ hangups env w e := by
  constructor
  · intro hout
    by_contra hstays
    rw [not_or] at hstays
    have hg1 := (Lobby.get_gone hw (hangups env w e) gid _).mpr ⟨g, hg, hstays.2, rfl⟩
    have hsame := (step_hangups env hn hw).members gid
    rw [show ((LobbyOp.gone (hangups env w e)).apply w.lobby).get gid = _ from hg1] at hsame
    obtain ⟨g', hg', hm⟩ := Option.map_eq_some_iff.mp hsame
    refine hout g' hg' ?_
    rw [show g'.participants = _ from (congrArg Gathering.participants hm :)]
    exact List.mem_filter.mpr ⟨hin, by simpa using hstays.1⟩
  · intro hhang g' hg' hin'
    obtain ⟨g1, hg1, hm⟩ := (step_hangups env hn hw).members.back hg'
    obtain ⟨g0, hg0, howner, rfl⟩ := (Lobby.get_gone hw (hangups env w e) gid g1).mp hg1
    cases hg0.symm.trans hg
    rw [← show _ = g'.participants from (congrArg Gathering.participants hm :)] at hin'
    have hstays : p.remote ∉ hangups env w e := of_decide_eq_true (List.mem_filter.mp hin').2
    exact hhang.elim hstays howner

theorem requestOf_of_hangups {e : Event} {w : World} {remote : Remote}
    (h : remote ∈ hangups env w e) : requestOf env w e = none := by
  cases hreq : requestOf env w e with
  | none => rfl
  | some r =>
    rw [hangups_of_request env hreq] at h
    cases h

/-! ## The pushes -/

theorem mem_broadcastPushes {w : World} {port : Port} {ps : List Participant}
    {subjectPid type gid : Nat} {push : Push} (h : push ∈ broadcastPushes w port ps subjectPid type gid) :
    ∃ p ∈ ps, p.pid ≠ subjectPid ∧ (w.connections port).get? p.remote = some push.conn := by
  obtain ⟨p, hin, hp⟩ := List.mem_filterMap.mp h
  split at hp
  · cases hp
  · next hne =>
    obtain ⟨c, hc, rfl⟩ := Option.map_eq_some_iff.mp hp
    exact ⟨p, hin, hne, hc⟩

theorem mem_backfillPushes {w : World} {port : Port} {g : Gathering} {joinerPid : Nat} {push : Push}
    (h : push ∈ backfillPushes w port g joinerPid) :
    ∃ p ∈ g.participants, (w.connections port).get? p.remote = some push.conn := by
  unfold backfillPushes at h
  split at h
  · cases h
  · next joiner hj =>
    split at h
    · cases h
    · next c hc =>
      obtain ⟨p, -, rfl⟩ := List.mem_map.mp h
      exact ⟨joiner, List.mem_of_find?_eq_some hj, hc⟩

/-- What is on the list of an option is on that of its value. -/
theorem mem_elim {α β : Type} {o : Option α} {f : α → List β} {x : β} (h : x ∈ o.elim [] f) :
    ∃ a, o = some a ∧ x ∈ f a := by
  cases o with
  | none => cases h
  | some a => exact ⟨a, rfl, h⟩

theorem elim_mem {α β : Type} {o : Option α} {f : α → List β} {a : α} {x : β} (ho : o = some a)
    (h : x ∈ f a) : x ∈ o.elim [] f := by
  rw [ho]
  exact h

theorem mem_batchDue {w : World} {port : Port} {g : Gathering} {push : Push}
    (h : push ∈ batchDue env w port g) :
    ∃ p ∈ batchAudience env w g, (w.connections port).get? p.remote = some push.conn := by
  obtain ⟨cash, hcash, hdue⟩ := mem_elim h
  obtain ⟨p, hin, hp⟩ := List.mem_filterMap.mp hdue
  obtain ⟨c, hc, rfl⟩ := Option.map_eq_some_iff.mp hp
  exact ⟨p, elim_mem hcash hin, hc⟩

theorem not_mem_probePushes {push : Push} (hproto : push.proto = Notification.proto) (c : ConnId)
    (urls : List Str) : push ∉ probePushes c urls := by
  intro hin
  obtain ⟨url, -, rfl⟩ := List.mem_map.mp hin
  exact absurd (show NatTraversal.proto = Notification.proto from hproto) (by decide)

theorem mem_joinPushes {w : World} {port : Port} {c : ConnId} {g : Gathering} {push : Push}
    (h : push ∈ joinPushes w port c g) (hproto : push.proto = Notification.proto) :
    ∃ p ∈ (w.joined c g).participants, (w.connections port).get? p.remote = some push.conn := by
  rcases List.mem_append.mp h with h | h
  · rcases List.mem_append.mp h with h | h
    · split at h
      · exact absurd h (not_mem_probePushes hproto _ _)
      · cases h
    · obtain ⟨p, hin, -, hp⟩ := mem_broadcastPushes h
      exact ⟨p, hin, hp⟩
  · exact mem_backfillPushes h

/-- A farewell goes to the others. -/
theorem mem_leavePushes {w : World} {port : Port} {c : ConnId} {g : Gathering} {push : Push}
    (h : push ∈ leavePushes w port c g) :
    ∃ p ∈ (w.left c g).participants, (w.connections port).get? p.remote = some push.conn := by
  obtain ⟨p, hin, hne, hp⟩ := mem_broadcastPushes h
  exact ⟨p, List.mem_filter.mpr ⟨hin, bne_iff_ne.mpr hne⟩, hp⟩

theorem port_completedBy {w : World} {port : Port} {c : ConnId} {req : Request} {r : Port × Gathering}
    (h : completedBy env w port c req = some r) : r.1 = port := by
  unfold completedBy at h
  split at h
  · obtain ⟨g, -, rfl⟩ := Option.map_eq_some_iff.mp h
    rfl
  · cases h

/-- A notification that is due was meant for somebody its remote leads to. -/
theorem mem_requestDue {w : World} {port : Port} {c : ConnId} {req : Request} {push : Push}
    (h : push ∈ requestDue env w port c req) (hproto : push.proto = Notification.proto) :
    ∃ p ∈ requestAudience env w port c req, (w.connections port).get? p.remote = some push.conn := by
  unfold requestDue at h
  unfold requestAudience
  dsimp only at h ⊢
  by_cases hjoin : req.proto = 60 ∧ req.method = 5
  · rw [if_pos hjoin] at h ⊢
    obtain ⟨g, hg, hin⟩ := mem_elim h
    obtain ⟨p, hin, hp⟩ := mem_joinPushes hin hproto
    exact ⟨p, elim_mem hg hin, hp⟩
  rw [if_neg hjoin] at h ⊢
  by_cases hleave : req.proto = 60 ∧ req.method = 16
  · rw [if_pos hleave] at h ⊢
    obtain ⟨g, hg, hin⟩ := mem_elim h
    obtain ⟨p, hin, -, hp⟩ := mem_broadcastPushes hin
    exact ⟨p, elim_mem hg hin, hp⟩
  rw [if_neg hleave] at h ⊢
  by_cases hdestroy : req.proto = 21 ∧ req.method = 36
  · rw [if_pos hdestroy] at h ⊢
    obtain ⟨g, hg, hin⟩ := mem_elim h
    obtain ⟨p, hin, hp⟩ := mem_leavePushes hin
    exact ⟨p, elim_mem hg hin, hp⟩
  rw [if_neg hdestroy] at h ⊢
  by_cases hprobes : req.Probes
  · rw [if_pos hprobes] at h
    obtain ⟨t, -, hin⟩ := mem_elim h
    rcases List.mem_append.mp hin with hin | hin
    · exact absurd hin (not_mem_probePushes hproto _ _)
    · exact absurd hin (not_mem_probePushes hproto _ _)
  rw [if_neg hprobes] at h ⊢
  obtain ⟨r, hr, hin⟩ := mem_elim h
  obtain ⟨p, hin, hp⟩ := mem_batchDue env hin
  rw [port_completedBy env hr] at hp
  exact ⟨p, elim_mem hr hin, hp⟩

/-- What goes out was on the list. -/
theorem mem_outgoing {heap : ConnId → Connection} {callId : Nat} {ps : List Push} {push : Push}
    (h : push ∈ outgoing env heap callId ps) : push ∈ ps := by
  induction ps generalizing heap callId with
  | nil => cases h
  | cons p ps ih =>
    unfold outgoing at h
    split at h
    · rcases List.mem_cons.mp h with rfl | h
      · exact List.mem_cons_self
      · exact List.mem_cons_of_mem _ (ih h)
    · cases h

theorem mem_numbered {port : Port} {callId : Nat} {ps : List Push} {r : Port × ConnId × Request}
    (h : r ∈ Push.numbered port callId ps) :
    ∃ push ∈ ps, r.1 = port ∧ r.2.1 = push.conn ∧ r.2.2.proto = push.proto := by
  induction ps generalizing callId with
  | nil => cases h
  | cons p ps ih =>
    rcases List.mem_cons.mp h with rfl | h
    · exact ⟨p, List.mem_cons_self, rfl, rfl, rfl⟩
    · obtain ⟨push, hin, hr⟩ := ih h
      exact ⟨push, List.mem_cons_of_mem _ hin, hr⟩

theorem mem_requests {w : World} {port : Port} {ps : List Push} {r : Port × ConnId × Request}
    (h : r ∈ requests env w port ps) :
    ∃ push ∈ ps, r.1 = port ∧ r.2.1 = push.conn ∧ r.2.2.proto = push.proto := by
  obtain ⟨push, hin, hr⟩ := mem_numbered h
  exact ⟨push, mem_outgoing env hin, hr⟩

/-- **A notification** goes to the entry of somebody in the audience. -/
theorem mem_pushed {e : Event} {w : World} {r : Port × ConnId × Request} (h : r ∈ pushed env e w)
    (hproto : r.2.2.proto = Notification.proto) :
    ∃ p, (r.1, p) ∈ audience env e w ∧ (w.connections r.1).get? p.remote = some r.2.1 := by
  unfold pushed at h
  unfold audience
  cases hreq : requestOf env w e with
  | some r =>
    obtain ⟨port, c, req⟩ := r
    rw [hreq] at h
    obtain ⟨push, hin, hport, hconn, hp⟩ := mem_requests env h
    obtain ⟨p, hp, hget⟩ := mem_requestDue env hin (hp.symm.trans hproto)
    rw [hport, hconn]
    exact ⟨p, List.mem_map_of_mem hp, hget⟩
  | none =>
    rw [hreq] at h
    cases e with
    | timer id =>
      obtain ⟨due, hdue, hin⟩ := mem_elim (show r ∈ (timedOut w id).elim [] _ from h)
      obtain ⟨push, hin, hport, hconn, -⟩ := mem_requests env hin
      obtain ⟨p, hp, hget⟩ := mem_batchDue env hin
      rw [hport, hconn]
      exact ⟨p, elim_mem hdue (List.mem_map_of_mem hp), hget⟩
    | packet => cases h
    | reap => cases h
    | elapse => cases h

/-! ## The audience -/

theorem mem_batchAudience {w : World} {g : Gathering} {p : Participant}
    (h : p ∈ batchAudience env w g) : p ∈ g.participants := by
  obtain ⟨cash, -, hin⟩ := mem_elim h
  exact hin

/-- The request lets this entry into a lobby. -/
def Admits (w : World) (c : ConnId) (req : Request) (p : Participant) : Prop :=
  req.proto = 60 ∧ req.method = 5 ∧ ∃ g, Game.admitted w (w.heap c).userPid req = some g ∧
    p.conn = some c ∧
    p.remote = GatheringRegistry.listedRemote g.participants (w.heap c).userPid (w.heap c).remote

def Listed (w : World) (p : Participant) : Prop :=
  ∃ gid g, w.lobby.get gid = some g ∧ p ∈ g.participants

theorem mem_requestAudience {w : World} (hw : w.lobby.registry.WellIndexed) {port : Port} {c : ConnId}
    {req : Request} {p : Participant} (h : p ∈ requestAudience env w port c req) :
    Listed w p ∨ Admits w c req p := by
  have hleft : ∀ P : Gathering → Bool, p ∈ ((w.lobby.get (leadingGid req)).filter P).elim []
      (fun g => (w.left c g).participants) → Listed w p := by
    intro P h
    obtain ⟨g, hg, hin⟩ := mem_elim h
    exact ⟨_, g, (Option.filter_eq_some_iff.mp hg).1, (List.mem_filter.mp hin).1⟩
  unfold requestAudience at h
  dsimp only at h
  split at h
  · next hjoin =>
    obtain ⟨g, hadm, hin⟩ := mem_elim h
    rcases GatheringRegistry.mem_joined hin with hold | ⟨-, hconn, hremote⟩
    · exact .inl ⟨g.id, g, Game.get_of_admitted hw hadm, hold⟩
    · exact .inr ⟨hjoin.1, hjoin.2, g, hadm, hconn, hremote⟩
  · split at h
    · exact .inl (hleft _ h)
    · split at h
      · exact .inl (hleft _ h)
      · split at h
        · cases h
        · obtain ⟨r, hr, hin⟩ := mem_elim h
          unfold completedBy at hr
          split at hr
          · obtain ⟨g, hcomp, rfl⟩ := Option.map_eq_some_iff.mp hr
            obtain ⟨g0, hsender, rfl, -⟩ := Game.completing_eq_some hcomp
            have hlisted := mem_batchAudience env hin
            rw [Game.participants_reported] at hlisted
            exact .inl ⟨g0.id, g0, Game.get_of_senderGathering hw hsender, hlisted⟩
          · cases hr

theorem mem_audience {e : Event} {w : World} (hw : w.lobby.registry.WellIndexed) {port : Port}
    {p : Participant} (h : (port, p) ∈ audience env e w) :
    Listed w p ∨ ∃ c req, requestOf env w e = some (port, c, req) ∧ Admits w c req p := by
  unfold audience at h
  split at h
  · next port' c req hreq =>
    obtain ⟨q, hq, he⟩ := List.mem_map.mp h
    cases he
    exact (mem_requestAudience env hw hq).imp id fun hadmits => ⟨c, req, hreq, hadmits⟩
  · next id hreq =>
    left
    obtain ⟨due, hdue, hin⟩ := mem_elim h
    obtain ⟨t, -, hdue⟩ := Option.bind_eq_some_iff.mp hdue
    obtain ⟨g, hg, rfl⟩ := Option.map_eq_some_iff.mp hdue
    obtain ⟨q, hq, he⟩ := List.mem_map.mp hin
    cases he
    exact ⟨_, g, (Option.filter_eq_some_iff.mp hg).1, mem_batchAudience env hq⟩
  · cases h

/-- Whoever is pushed to has a connection, and its entry on that connection's port leads there. -/
theorem Inv.of_audience {e : Event} {w : World} (h : Inv w) (hr : RejoinsInPlace env e w) {port : Port}
    {p : Participant} (hp : (port, p) ∈ audience env e w) :
    ∃ c, p.conn = some c ∧ (w.connections (w.heap c).localPort).get? p.remote = some c := by
  rcases mem_audience env h.sound.indexed hp with ⟨gid, g, hg, hin⟩ | ⟨c, req, hreq, h1, h2, g, hadm, hc, he⟩
  · obtain ⟨c, hc⟩ := Option.ne_none_iff_exists'.mp (h.joined gid g hg p hin)
    exact ⟨c, hc, h.coherent.reached p c ⟨gid, g, hg, hin, hc⟩⟩
  · have hplace := hr _ hreq h1 h2 g hadm
    refine ⟨c, hc, ?_⟩
    rw [he.trans hplace]
    exact live_of_requestOf env h.sound hreq

/-! ## An event serves -/

theorem served {e : Event} {w : World} (h : Inv w) (hp : InPlace env e w) : Served env e w := by
  have hfound : ∀ port p, (port, p) ∈ audience env e w → ∀ c, p.conn = some c →
      (w.connections port).get? p.remote = some c := by
    intro port p hin c hc
    obtain ⟨k, hk, hget⟩ := h.of_audience env hp.rejoins hin
    cases hk.symm.trans hc
    rw [hp.pushes port p hin c hc] at hget
    exact hget
  refine ⟨hfound, fun rs hrs r hr hproto => ?_, fun hn gid g hg p hin c hc => ?_⟩
  · rw [hrs.unique (step_pushes env e h.bounded)] at hr
    obtain ⟨p, hin, hget⟩ := mem_pushed env hr hproto
    obtain ⟨c, hc, -⟩ := h.of_audience env hp.rejoins hin
    cases (hfound _ _ hin c hc).symm.trans hget
    exact ⟨p, hin, hc⟩
  · have hseated : Seated w p c := ⟨gid, g, hg, hin, hc⟩
    have hcloses : Closes env e w c ↔ p.remote ∈ hangups env w e := by
      unfold Closes
      rw [← h.coherent.address p c hseated]
      exact ⟨fun hc => hc.2.1, fun hhang => ⟨hp.hangsUp p c hseated hhang, hhang, h.live hseated⟩⟩
    rw [removed_iff env h.sound.indexed hn hg hin, hcloses]
    tauto

/-! ## What goes wrong otherwise -/

/-- **The join that breaks it.**  The entry has the new connection at the old address. -/
theorem rejoins_of_coherent {e : Event} {w : World} (hs : Sound w) (hco : Coherent (step env e w)) :
    RejoinsInPlace env e w := by
  rintro ⟨port, c, req⟩ hreq h1 h2 g hadm
  have hlobby := get_step_join env hreq hs.indexed h1 h2 hadm
  obtain ⟨p, hin, -, hconn, hremote⟩ := GatheringRegistry.exists_joined g.participants
    (w.heap c).userPid (pidName (w.heap c).userPid) (w.heap c).remote c
  have haddr := hco.address p c ⟨_, _, hlobby, hin, hconn⟩
  have hsame := ((step_aged env e hs.indexed).home c (hs.of_requestOf env hreq).1).2
  exact hremote.symm.trans (haddr.trans hsame)

/-- **The SYN that breaks it.**  Nobody hangs up, so the player stays listed, and the entry in
the table is the new connection's. -/
theorem stays_of_coherent {w : World} (h : Inv w) {port : Port} {remote : Remote} {pkt : PRUDPPacket}
    (hsyn : pkt.type = .syn) (hco : Coherent (step env (.packet port remote pkt) w)) {p : Participant}
    {c : ConnId} (hseated : Seated w p c) (hport : (w.heap c).localPort = port) : p.remote ≠ remote := by
  intro hremote
  have hlt := h.sound.lt _ _ c (h.live hseated)
  obtain ⟨gid, g, hg, hin, hc⟩ := hseated
  obtain ⟨g', hg', hin'⟩ : ∃ g', (step env (.packet port remote pkt) w).lobby.get gid = some g' ∧
      p ∈ g'.participants := by
    by_contra hout
    have hgone := (removed_iff env h.sound.indexed (requestOf_syn env w port remote hsyn) hg hin).mp
      fun g' hg' hin' => hout ⟨g', hg', hin'⟩
    rw [hangups_syn env w port remote hsyn] at hgone
    exact hgone.elim List.not_mem_nil List.not_mem_nil
  have hreached := hco.reached p c ⟨gid, g', hg', hin', hc⟩
  rw [((step_aged env _ h.sound.indexed).home c hlt).1, hport, hremote,
    History.step_table env _ h.sound] at hreached
  rcases hreached with ⟨-, -, -, hnew⟩ | ⟨-, hstays⟩
  · exact absurd hnew hlt.ne
  · exact hstays ⟨rfl, rfl, .inl hsyn⟩

theorem inPlace_of_served {e : Event} {w : World} (h : Inv w) (hserved : Served env e w)
    (hco : Coherent (step env e w)) : InPlace env e w := by
  refine ⟨rejoins_of_coherent env h.sound hco, ?_, ?_, ?_⟩
  · rintro port remote pkt rfl hsyn p c hseated hport
    exact stays_of_coherent env h hsyn hco hseated hport
  · rintro p c ⟨gid, g, hg, hin, hc⟩ hhang
    have hn := requestOf_of_hangups env hhang
    have hout := (removed_iff env h.sound.indexed hn hg hin).mpr (.inl hhang)
    rcases (hserved.removed hn gid g hg p hin c hc).mp hout with hcloses | ⟨-, hno⟩
    · exact hcloses.1
    · exact absurd hhang hno
  · intro port p hin c hc
    exact (h.sound.home port _ c (hserved.found port p hin c hc)).1

/-! ## Every run -/

/-- **Participants are coherent exactly as long as everything is in place.**  Over every run
from a server without lobbies. -/
theorem coherent_iff (w : World) (hs : Sound w) (hl : w.lobby = Lobby.empty)
    (hp : ∀ c, (w.heap c).userPid < 2 ^ 32) (es : List Event) :
    ((∀ n, Coherent (runs (step env) (es.take n) w)) ∧ Guarded (step env) (Served env) es w) ↔
      Guarded (step env) (InPlace env) es w := by
  have hstart : Inv w := by
    have hnobody : ∀ gid g, w.lobby.get gid ≠ some g := by
      intro gid g hg
      rw [hl] at hg
      cases hg
    exact ⟨hs, Offers.runs_bounded env hl hp [], ⟨fun p c ⟨gid, g, hg, _⟩ => absurd hg (hnobody gid g),
      fun p c ⟨gid, g, hg, _⟩ => absurd hg (hnobody gid g)⟩, fun gid g hg => absurd hg (hnobody gid g)⟩
  have hcoherent := fun hH : Guarded (step env) (Served env) es w =>
    throughout_iff_guarded_of (fun _ h => h.coherent) (fun _ _ _ h hp => step_inv env h hp)
      (fun _ _ hserved h hp hco => hp (inPlace_of_served env h hserved hco)) es w hH hstart
  constructor
  · rintro ⟨hall, hH⟩
    exact (hcoherent hH).mp hall
  · intro hp
    have hH := guarded_of_invariant (fun _ _ hp h => step_inv env h hp) (fun _ _ hp h => served env h hp)
      es w hp hstart
    exact ⟨(hcoherent hH).mpr hp, hH⟩

/-- A host, and a guest with two connections, of which the older has gone quiet. -/
def twoConnections : World :=
  Sample.world [Sample.connection .secure 1 10000, Sample.connection .secure 2 10001,
    Sample.connection .secure 3 10001]

/-- The guest joins, and joins again from its new connection. -/
def joinsTwice : List Event :=
  [.packet .secure (Sample.remote 1) (Sample.data 1 60 4 []),
   .packet .secure (Sample.remote 2) (Sample.data 1 60 5 (wU32 10000)),
   .packet .secure (Sample.remote 3) (Sample.data 1 60 5 (wU32 10000))]

theorem pid_twoConnections (c : ConnId) : (twoConnections.heap c).userPid < 2 ^ 32 := by
  match c with
  | 0 => show 10000 < 2 ^ 32; omega
  | 1 => show 10001 < 2 ^ 32; omega
  | 2 => show 10001 < 2 ^ 32; omega
  | c + 3 => show 0 < 2 ^ 32; omega

theorem coherent_iff_joinsTwice :
    ((∀ n, Coherent (runs (step Sample.env) (joinsTwice.take n) twoConnections)) ∧
      Guarded (step Sample.env) (Served Sample.env) joinsTwice twoConnections) ↔
      Guarded (step Sample.env) (InPlace Sample.env) joinsTwice twoConnections :=
  coherent_iff Sample.env twoConnections (Sample.world_sound _) rfl pid_twoConnections joinsTwice

/-- Its entry has the new connection at the old address. -/
theorem not_coherent_joinsTwice : ¬ Coherent (runs (step Sample.env) joinsTwice twoConnections) := by
  intro h
  have hlobby : ((runs (step Sample.env) joinsTwice twoConnections).lobby.get 10000).map
        (fun g => g.participants.map fun p => (p.conn, p.remote)) =
      some [(some 0, Sample.remote 1), (some 2, Sample.remote 2)] := by
    decide +kernel
  have hremote : ((runs (step Sample.env) joinsTwice twoConnections).heap 2).remote =
      Sample.remote 3 := by
    decide +kernel
  obtain ⟨g, hg, hps⟩ := Option.map_eq_some_iff.mp hlobby
  have hin : (some 2, Sample.remote 2) ∈ g.participants.map fun p => (p.conn, p.remote) := by
    rw [hps]
    decide
  obtain ⟨p, hp, he⟩ := List.mem_map.mp hin
  have haddr := h.address p 2 ⟨10000, g, hg, hp, congrArg Prod.fst he⟩
  rw [hremote, show p.remote = Sample.remote 2 from congrArg Prod.snd he] at haddr
  exact absurd haddr (by decide)

end Coherence
end Ghostbusters
