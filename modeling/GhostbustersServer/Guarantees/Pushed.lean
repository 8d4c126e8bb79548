import GhostbustersServer.Guarantees.Offers
import GhostbustersServer.Guarantees.Transactions

/-!
# What the server sends of its own accord

Nobody asks for a push: it is sent because of what another client did, or because a timer
expired.  The ones of an event can be read off the state before it.

    requestDue       what a request has the server push
    outgoing         a list of pushes, up to the first that cannot be encoded
    step_pushes      an event sends the requests that are due, and no others
    pushes_exact     and so does a run
-/

namespace Ghostbusters
namespace Pushed

open Py Act PRUDPServer Transactions

variable (env : Env)

/-! ## A list of pushes -/

/-- A list up to the first push that cannot be encoded, under the ids they get. -/
def outgoing (heap : ConnId → Connection) (callId : Nat) : List Push → List Push
  | [] => []
  | p :: ps =>
    if Goes env (heap p.conn) (p.request callId) then
      p :: outgoing (Function.update heap p.conn
        { heap p.conn with outgoingReliableSeq := (heap p.conn).outgoingReliableSeq + 1 })
        (callId + 1) ps
    else []

/-- The requests that a list of pushes comes to. -/
def requests (w : World) (port : Port) (ps : List Push) : List (Port × ConnId × Request) :=
  Push.numbered port (w.serverCallId port) (outgoing env w.heap (w.serverCallId port) ps)

theorem outgoing_congr {heap heap' : ConnId → Connection} {callId : Nat}
    (h : ∀ k, (heap k).session = (heap' k).session) (ps : List Push) :
    outgoing env heap callId ps = outgoing env heap' callId ps := by
  induction ps generalizing heap heap' callId with
  | nil => rfl
  | cons p ps ih =>
    unfold outgoing
    rw [goes_congr env (h p.conn)]
    refine congrArg (fun qs => if Goes env (heap' p.conn) (p.request callId) = true then p :: qs
      else []) (ih fun k => ?_)
    simp only [Function.update_apply]
    split
    · have hseq : (heap p.conn).outgoingReliableSeq = (heap' p.conn).outgoingReliableSeq :=
        (congrArg Connection.outgoingReliableSeq (h p.conn) :)
      rw [hseq]
      exact congrArg (fun conn : Connection =>
        { conn with outgoingReliableSeq := (heap' p.conn).outgoingReliableSeq + 1 }) (h p.conn)
    · exact h k

/-- A push that cannot be encoded is not sent. -/
theorem send_unsent (port : Port) (p : Push) {w w' : World} {e : Exc}
    (h : (p.send env port).run w = (.error e, w')) : Sends w w' [] := by
  let w0 := { w with serverCallId := Function.update w.serverCallId port (w.serverCallId port + 1) }
  obtain ⟨w1, hi, hr | ⟨e1, hr⟩⟩ := Inert.send_after env port p.conn
    (.request (p.request (w.serverCallId port))) w0
  · cases h.symm.trans hr
  · cases h.symm.trans hr
    have hlog : LogGrows (fun e => sentRequest e = none) w0 w1 := by
      refine hi.log.mono fun x hx => ?_
      cases x <;> first | rfl | exact absurd trivial hx
    refine .of_grows (LogGrows.trans (.of_same rfl) (LogGrows.trans hlog ⟨[_], rfl, ?_⟩))
    simp [sentRequest]

/-- **A list of pushes.** -/
theorem sendAll_sends (port : Port) (ps : List Push) (w : World) :
    Sends w ((Act.forEach ps (Push.send env port)).after w) (requests env w port ps) := by
  unfold after requests
  induction ps generalizing w with
  | nil => exact .of_grows (.of_same rfl)
  | cons p ps ih =>
    show Sends w ((p.send env port >>= fun _ => Act.forEach ps (Push.send env port)).run w).2 _
    unfold outgoing
    cases hp : Goes env (w.heap p.conn) (p.request (w.serverCallId port)) with
    | false =>
      obtain ⟨e, w1, hr⟩ := send_fails env port p w hp
      rw [run_bind_error hr]
      exact send_unsent env port p hr
    | true =>
      obtain ⟨w1, hr, hheap, hcall, hs⟩ := send_goes env port p w hp
      have hrest := ih w1
      rw [hheap, hcall] at hrest
      rw [run_bind_ok hr]
      exact hs.trans hrest

/-- And what comes behind it, if that sends nothing. -/
theorem sendAll_then {α : Type} {m : Srv α} (hm : ∀ s, (m.after s).trace = s.trace) (port : Port)
    (ps : List Push) (w : World) :
    Sends w ((Act.forEach ps (Push.send env port) >>= fun _ => m).after w)
      (requests env w port ps) := by
  have hs := sendAll_sends env port ps w
  unfold after at *
  rcases run_bind_cases (Act.forEach ps (Push.send env port)) (fun _ => m) w with
    ⟨e, -, hb⟩ | ⟨u, -, hb⟩
  · rw [hb]
    exact hs
  · rw [hb]
    have hend := hs.trans (.of_grows (.of_same (hm _)))
    rw [List.append_nil] at hend
    exact hend

/-! ## Requests -/

/-- The connection that a RequestProbeInitiation is about. -/
def target (w : World) (req : Request) : Option ConnId :=
  (Reader.parse NatTraversal.urlList req.params).toOption.bind (NatTraversal.findConnByUrls w)

/-- Probes for two connections, each to the URLs of the other. -/
def bothWays (w : World) (c target : ConnId) : List Push :=
  let sameNat := decide ((w.heap c).remote.ip = (w.heap target).remote.ip)
  probePushes target (NatTraversal.probeCandidates (w.heap c).stationUrls sameNat) ++
    probePushes c (NatTraversal.probeCandidates (w.heap target).stationUrls sameNat)

/-- The events of a batch, if the cash of its players can be read. -/
def batchDue (w : World) (port : Port) (g : Gathering) : List Push :=
  ((Game.readCash env g).run w.db).1.toOption.elim [] (Game.batchPushes env w port g)

def requestDue (w : World) (port : Port) (c : ConnId) (req : Request) : List Push :=
  let pid := (w.heap c).userPid
  if req.proto = 60 ∧ req.method = 5 then
    (Game.admitted w pid req).elim [] (joinPushes w port c)
  else if req.proto = 60 ∧ req.method = 16 then
    ((w.lobby.get (leadingGid req)).filter fun g => pid ∈ g.pids).elim []
      fun g => leavePushes w port c (w.left c g)
  else if req.proto = 21 ∧ req.method = 36 then
    ((w.lobby.get (leadingGid req)).filter fun g => pid = g.ownerPid).elim [] (leavePushes w port c)
  else if req.Probes then (target w req).elim [] (bothWays w c)
  else (completedBy env w port c req).elim []
    fun r => batchDue env (Game.counted env pid req.params w) r.1 r.2

section
variable {w : World} {port : Port} {c : ConnId} {req : Request}

theorem Sends.still {w w' : World} (h : w'.trace = w.trace) (port : Port) :
    Sends w w' (requests env w port []) := .of_grows (.of_same h)

theorem join_sends (hb : Offers.Bounded w) : Sends w ((Game.joinGathering env port c req).after w)
    (requests env w port ((Game.admitted w (w.heap c).userPid req).elim [] (joinPushes w port c))) := by
  cases hadm : Game.admitted w (w.heap c).userPid req with
  | none =>
    unfold after
    rw [Game.joinGathering_refused env w port c req hadm]
    exact Sends.still env rfl port
  | some g =>
    have hget := Game.get_of_admitted hb.indexed hadm
    have hid : g.id < 2 ^ 32 := by
      have hlead := hb.indexed.ids _ g (Game.admitted_eq_some hadm).1
      rw [hlead]
      exact leadingGid_lt req
    obtain ⟨body, -, hrun⟩ := @Game.joinGathering_run env w port c req g hadm hget hid
      (hb.players _ g hget).1 (length_joined_lt (hb.capped _ g hget).four)
    unfold after
    rw [hrun]
    exact sendAll_then env (m := (pure (Game.ok req body) : Srv Message)) (fun _ => rfl) port
      (joinPushes w port c g) (Game.joinedWorld w c g)

/-- A leave takes somebody out if the player is listed. -/
theorem removed_iff (reg : GatheringRegistry) (gid pid : Nat) :
    (reg.removeParticipant gid pid).1 = true ↔ ∃ g, reg.get gid = some g ∧ pid ∈ g.pids := by
  unfold GatheringRegistry.removeParticipant GatheringRegistry.get
  cases hg : reg.byId.get? gid with
  | none => simp
  | some g =>
    by_cases hin : pid ∈ g.pids
    · obtain ⟨p, hp, hpid⟩ := List.mem_map.mp hin
      have hlt : (g.participants.filter fun p => p.pid != pid).length < g.participants.length :=
        List.length_filter_lt_length_iff_exists.mpr ⟨p, hp, by simp [hpid]⟩
      simp [hin, Nat.ne_of_lt hlt]
    · simp [hin, g.participants_without hin]

theorem leave_sends : Sends w ((Game.leaveGathering env port c req).after w)
    (requests env w port (((w.lobby.get (leadingGid req)).filter
      fun g => (w.heap c).userPid ∈ g.pids).elim [] fun g => leavePushes w port c (w.left c g))) := by
  have hiff := removed_iff w.lobby.registry (leadingGid req) (w.heap c).userPid
  unfold after
  rw [Game.leaveGathering_run]
  cases hrem : (w.lobby.registry.removeParticipant (leadingGid req) (w.heap c).userPid).1 with
  | false =>
    rw [hrem] at hiff
    have hnone : (w.lobby.get (leadingGid req)).filter (fun g => (w.heap c).userPid ∈ g.pids) = none :=
      Option.filter_eq_none_iff.mpr fun g hg hin =>
        Bool.false_ne_true (hiff.mpr ⟨g, hg, of_decide_eq_true hin⟩)
    rw [hnone]
    exact Sends.still env rfl port
  | true =>
    obtain ⟨g, hg, hin⟩ := hiff.mp hrem
    have hleft : (w.lobby.registry.removeParticipant (leadingGid req) (w.heap c).userPid).2.get
        (leadingGid req) = some (w.left c g) := by
      rw [GatheringRegistry.get_removeParticipant, if_pos rfl, hg]
      rfl
    let w' := w.withLobby ((LobbyOp.leave (leadingGid req) (w.heap c).userPid).apply w.lobby)
    have hb := broadcast_run env (show SameView w w' from ⟨rfl, fun _ => rfl⟩) port
      (w.left c g).participants (w.heap c).userPid Notification.eventEndParticipation (w.left c g).id
    have hs := sendAll_then env (m := (pure (Game.ok req []) : Srv Message)) (fun _ => rfl) port
      (leavePushes w port c (w.left c g)) w'
    rw [show w.lobby.get (leadingGid req) = some g from hg, Option.filter_some,
      if_pos (decide_eq_true hin), hleft]
    simp only [if_pos]
    show Sends w ((Notification.pushLeave env port (w.left c g) (w.heap c).userPid >>= fun _ =>
      (pure (Game.ok req []) : Srv Message)).run w').2 _
    unfold Notification.pushLeave
    rw [run_bind, hb]
    exact hs

theorem destroy_sends : Sends w ((Matchmaking.destroyGathering env port c req).after w)
    (requests env w port (((w.lobby.get (leadingGid req)).filter
      fun g => (w.heap c).userPid = g.ownerPid).elim [] (leavePushes w port c))) := by
  unfold Matchmaking.destroyGathering Srv.conn after
  simp only [run_bind, run_get, run_pure]
  cases hg : w.lobby.get (leadingGid req) with
  | none => exact Sends.still env rfl port
  | some g =>
    by_cases howner : (w.heap c).userPid = g.ownerPid
    · have hb := broadcast_run env (refl_of SameView w) port g.participants (w.heap c).userPid
        Notification.eventEndParticipation g.id
      have hs := sendAll_then env (m := (do
          Srv.modifyRegistry fun reg => (reg.destroy (leadingGid req)).2
          return .ok { proto := Matchmaking.proto, method := Matchmaking.methodDestroyGathering
                       callId := req.callId, ret := [] } : Srv Message))
        (fun _ => rfl) port (leavePushes w port c g) w
      rw [Option.filter_some, if_pos (decide_eq_true howner)]
      simp only [if_pos howner]
      unfold Notification.pushLeave
      rw [run_bind, hb]
      exact hs
    · rw [Option.filter_some, if_neg (by simpa using howner)]
      simp only [if_neg howner]
      exact Sends.still env rfl port

theorem probe_sends : Sends w ((NatTraversal.requestProbeInitiation env port c req).after w)
    (requests env w port ((target w req).elim [] (bothWays w c))) := by
  unfold NatTraversal.requestProbeInitiation target
  cases Reader.parse NatTraversal.urlList req.params with
  | error e => exact Sends.still env rfl port
  | ok urls =>
    show Sends w ((Act.get >>= fun w0 => _ : Srv Message).run w).2 (requests env w port
      ((NatTraversal.findConnByUrls w urls).elim [] (bothWays w c)))
    rw [run_get_bind]
    cases NatTraversal.findConnByUrls w urls with
    | none => exact Sends.still env rfl port
    | some t =>
      have hs := sendAll_then env (m := (pure (NatTraversal.emptyOk req) : Srv Message))
        (fun _ => rfl) port (bothWays w c t) w
      unfold after at hs
      have hrun : (NatTraversal.pushProbes env port t (NatTraversal.probeCandidates
          (w.heap c).stationUrls (decide ((w.heap c).remote.ip = (w.heap t).remote.ip))) >>= fun _ =>
        NatTraversal.pushProbes env port c (NatTraversal.probeCandidates
          (w.heap t).stationUrls (decide ((w.heap c).remote.ip = (w.heap t).remote.ip))) >>= fun _ =>
        (pure (NatTraversal.emptyOk req) : Srv Message)).run w =
          (Act.forEach (bothWays w c t) (Push.send env port) >>= fun _ =>
            (pure (NatTraversal.emptyOk req) : Srv Message)).run w := by
        unfold bothWays
        simp only [run_bind, run_forEach_append, probes_run]
        generalize (Act.forEach (probePushes t _) (Push.send env port)).run w = out
        obtain ⟨r, w1⟩ := out
        cases r <;> rfl
      rw [← hrun] at hs
      exact hs

/-- A state that went on from `w` with nothing that pushes depend on. -/
theorem Sends.of_later {w w1 w2 : World} {rs : List (Port × ConnId × Request)}
    (h : LogGrows (fun e => sentRequest e = none) w w1) (hs : Sends w1 w2 rs) : Sends w w2 rs := by
  have hall := (Sends.of_grows h).trans hs
  rw [List.nil_append] at hall
  exact hall

theorem batch_sends (port : Port) {gid : Nat} (reason : Reason) {g : Gathering}
    (hg : w.lobby.get gid = some g) (hr : g.receivedM12Pids ≠ ∅) :
    Sends w ((Game.fireStatsProcessedBatch env port gid reason).after w)
      (requests env w port (batchDue env w port g)) := by
  let w1 := Game.firing gid reason g.pids w
  have hannounce : Sends w1 ((Game.announceBatch env port g).after w1)
      (requests env w port (batchDue env w port g)) := by
    unfold after batchDue
    cases hread : ((Game.readCash env g).run w.db).1 with
    | error e =>
      rw [Game.announceBatch_unread env port (w := w1) hread]
      exact Sends.still env rfl port
    | ok cash =>
      rw [Game.announceBatch_run env port (w := w1) hread]
      exact sendAll_sends env port (Game.batchPushes env w port g cash)
        { w1 with db := (Game.readCash env g).after w1.db }
  have hfired : LogGrows (fun e => sentRequest e = none) w w1 := ⟨[_], rfl, by simp [sentRequest]⟩
  refine Sends.of_later hfired ?_
  unfold after at *
  rw [Game.fire_run env port reason hg hr]
  rcases run_bind_cases (Game.announceBatch env port g)
    (fun _ => Srv.setGathering gid Game.clearBatch) w1 with ⟨e, -, hb⟩ | ⟨u, -, hb⟩
  · rw [hb]
    exact hannounce
  · rw [hb]
    have hend := hannounce.trans (.of_grows (.of_same (b := (Srv.setGathering gid Game.clearBatch).after
      ((Game.announceBatch env port g).after w1)) rfl))
    rw [List.append_nil] at hend
    exact hend

/-- What is stored is not sent. -/
theorem grows_persisted {pid : Nat} {w w' : World} {new : List TraceEntry}
    (h : w'.trace = w.trace ++ new) (hnew : ∀ e ∈ new, ∃ vec0 rows, e = .persisted pid vec0 rows) :
    LogGrows (fun e => sentRequest e = none) w w' := by
  refine ⟨new, h, fun e he => ?_⟩
  obtain ⟨vec0, rows, rfl⟩ := hnew e he
  rfl

theorem report_sends (hw : w.lobby.registry.WellIndexed) (hu : req.Uploads) :
    Sends w ((Game.reportStats env port c req).after w) (requests env w port
      ((completedBy env w port c req).elim [] fun r =>
        batchDue env (Game.counted env (w.heap c).userPid req.params w) r.1 r.2)) := by
  unfold completedBy
  by_cases harr : Game.Arrives env (w.heap c).userPid req.params w.db
  · rw [if_pos ⟨hu, harr⟩]
    obtain ⟨new, hnew, hafter⟩ := Game.reportStats_arrives env port harr
    let w1 : World :=
      { Game.counted env (w.heap c).userPid req.params w with trace := w.trace ++ new }
    rw [hafter]
    have hstored : LogGrows (fun e => sentRequest e = none) w w1 := grows_persisted rfl hnew
    refine Sends.of_later hstored ?_
    unfold after
    cases hcomp : Game.completing w.lobby (w.heap c).userPid with
    | none =>
      rw [Game.trackReport_waits env port (w := w1) hw hcomp true]
      exact Sends.still env rfl port
    | some g =>
      rw [Game.trackReport_fires env port (w := w1) hw hcomp]
      obtain ⟨g0, hs, rfl, -⟩ := Game.completing_eq_some hcomp
      rw [Game.id_reported]
      let w2 := w1.withLobby (w1.lobby.addReport g0.id (w.heap c).userPid)
      have hbatch := batch_sends env (w := w2) port .allReported
        (Game.get_addReport_sender hw hs)
        (Finset.ne_empty_of_mem (Game.mem_received_reported g0 (w.heap c).userPid))
      exact hbatch
  · rw [if_neg fun h => harr h.2]
    unfold after
    by_cases hacc : Game.Accepted env (w.heap c).userPid req.params w.db
    · obtain ⟨body, new, hrun, hnew⟩ := Game.reportStats_counted env port hacc
      rw [hrun]
      cases hmask : Game.masksOf (w.heap c).userPid req.params with
      | error e => exact .of_grows (grows_persisted rfl hnew)
      | ok u => exact absurd ⟨hacc, by rw [hmask]; rfl⟩ harr
    · obtain ⟨e, hrun⟩ := Game.reportStats_refused env port hacc
      rw [hrun]
      exact Sends.still env rfl port

end

/-! ## Every event -/

/-- No request went out. -/
def Reserved : World → World → Prop := LogGrows fun e => sentRequest e = none

instance : IsPreorder World Reserved :=
  inferInstanceAs (IsPreorder World (LogGrows fun e => sentRequest e = none))

theorem pushless_reserved : Pushless env Reserved where
  useDb := fun _ _ => LogGrows.of_same rfl
  random := fun _ _ => LogGrows.of_same rfl

theorem transport_reserved : Transport env Reserved where
  received := fun _ _ hr => hr.packets.mono fun _ he => sentRequest_packet he
  logged := fun _ e he => ⟨[e], rfl, fun x hx => by
    rw [List.mem_singleton.mp hx]
    cases e <;> first | rfl | exact absurd trivial he⟩
  withConn := fun _ _ _ _ => LogGrows.of_same rfl
  evicted := fun _ _ _ => ⟨[_], rfl, by simp [sentRequest]⟩
  opened := fun _ _ _ => LogGrows.of_same rfl
  answer := answer_unsent env

/-- **Every request**: what its handler pushes is what is due. -/
theorem respond_sends {w : World} (hb : Offers.Bounded w) (port : Port) (c : ConnId) (req : Request) :
    Sends w ((RMCDispatcher.respond env port c req).after w)
      (requests env w port (requestDue env w port c req)) := by
  unfold requestDue
  by_cases hjoin : req.proto = 60 ∧ req.method = 5
  · rw [if_pos hjoin, respond_after_of env (joinHandler env hjoin.1 hjoin.2)]
    exact join_sends env hb
  rw [if_neg hjoin]
  by_cases hleave : req.proto = 60 ∧ req.method = 16
  · have hh : RMCDispatcher.handlerFor env req = some fun port c r =>
        Game.leaveGathering env port c r := RMCDispatcher.handlerFor_eq env hleave.1 hleave.2 rfl
    rw [if_pos hleave, respond_after_of env hh]
    exact leave_sends env
  rw [if_neg hleave]
  by_cases hdestroy : req.proto = 21 ∧ req.method = 36
  · have hh : RMCDispatcher.handlerFor env req = some fun port c r =>
        Matchmaking.destroyGathering env port c r :=
      RMCDispatcher.handlerFor_eq env hdestroy.1 hdestroy.2 rfl
    rw [if_pos hdestroy, respond_after_of env hh]
    exact destroy_sends env
  rw [if_neg hdestroy]
  by_cases hprobe : req.Probes
  · have hh : RMCDispatcher.handlerFor env req = some fun port c r =>
        NatTraversal.requestProbeInitiation env port c r :=
      RMCDispatcher.handlerFor_eq env hprobe.1 hprobe.2 rfl
    rw [if_pos hprobe, respond_after_of env hh]
    exact probe_sends env
  rw [if_neg hprobe]
  by_cases hup : req.Uploads
  · have hh : RMCDispatcher.handlerFor env req = some fun port c r => Game.lifecycleStub env port c r :=
      RMCDispatcher.handlerFor_eq env hup.1 hup.2.1 rfl
    rw [respond_after_of env hh]
    have hrep : Game.lifecycleStub env port c req = Game.reportStats env port c req := if_pos hup.2
    rw [hrep]
    exact report_sends env hb.indexed hup
  · have hnone : completedBy env w port c req = none := if_neg fun h => hup h.1
    have hann : ¬ req.Announces := by
      rintro (⟨h1, h2 | h2⟩ | h)
      · exact hjoin ⟨h1, h2⟩
      · exact hleave ⟨h1, h2⟩
      · exact hdestroy h
    rw [hnone]
    have hregister : Within Reserved (SecureConnection.registerEx c req) := fun w =>
      LogGrows.of_same (congrArg Prod.fst (registerEx_fixes c req w))
    exact .of_grows ((pushless_reserved env).respond
      (fun _ => Within.modify fun _ => LogGrows.of_same rfl) port c req (fun h => absurd h hann)
      (fun h => absurd h hann) (fun h => absurd h hann) (fun h => absurd h hprobe)
      (fun _ => hregister) (fun h => absurd h hup) w)

/-- The requests that an event sends. -/
def pushed (e : Event) (w : World) : List (Port × ConnId × Request) :=
  match requestOf env w e, e with
  | some (port, c, req), _ => requests env w port (requestDue env w port c req)
  | none, .timer id => (timedOut w id).elim [] fun r => requests env w r.1 (batchDue env w r.1 r.2)
  | none, _ => []

section
variable {w w1 : World} (hr : Received w w1)
include hr

theorem requests_congr (port : Port) (ps : List Push) :
    requests env w1 port ps = requests env w port ps := by
  unfold requests
  rw [outgoing_congr env hr.session, show w1.serverCallId = w.serverCallId by rw [hr.rest]]

theorem target_congr (req : Request) : target w1 req = target w req := by
  have hfind : NatTraversal.findConnByUrls w1 = NatTraversal.findConnByUrls w := by
    funext urls
    unfold NatTraversal.findConnByUrls
    simp only [hr.lobby, hr.stationUrls]
  unfold target
  rw [hfind]

theorem bothWays_congr (c target : ConnId) : bothWays w1 c target = bothWays w c target := by
  unfold bothWays
  simp only [hr.remote, hr.stationUrls]

theorem uploadDue_congr (port : Port) (c : ConnId) (req : Request) :
    ((completedBy env w1 port c req).elim [] fun r =>
      batchDue env (Game.counted env (w1.heap c).userPid req.params w1) r.1 r.2) =
    (completedBy env w port c req).elim [] fun r =>
      batchDue env (Game.counted env (w.heap c).userPid req.params w) r.1 r.2 := by
  have hbatch : ∀ r : Port × Gathering,
      batchDue env (Game.counted env (w.heap c).userPid req.params w1) r.1 r.2 =
        batchDue env (Game.counted env (w.heap c).userPid req.params w) r.1 r.2 := by
    intro r
    rw [hr.rest]
    rfl
  unfold completedBy
  rw [hr.userPid, hr.db, hr.lobby]
  simp only [hbatch]

/-- What is due does not depend on what the packet itself has changed. -/
theorem requestDue_congr (port : Port) (c : ConnId) (req : Request) :
    requestDue env w1 port c req = requestDue env w port c req := by
  have hjoin : joinPushes w1 port c = joinPushes w port c := funext fun g => joinPushes_congr hr port c g
  have hleave : leavePushes w1 port c = leavePushes w port c :=
    funext fun g => leavePushes_congr hr port c g
  have hboth : bothWays w1 c = bothWays w c := funext fun t => bothWays_congr hr c t
  unfold requestDue
  dsimp only
  rw [uploadDue_congr env hr, hr.userPid, admitted_congr hr.lobby hr.stationUrls, hjoin, hleave,
    target_congr hr, hboth, hr.lobby]
  simp only [left_congr hr]

end

theorem timer_sends (id : TimerId) (w : World) : Sends w ((expire env id).after w)
    ((timedOut w id).elim [] fun r => requests env w r.1 (batchDue env w r.1 r.2)) := by
  unfold expire timedOut after
  rw [run_get_bind]
  cases w.lobby.timers.find? fun t => t.id == id with
  | none => exact .of_grows (.of_same rfl)
  | some t =>
    let w1 := w.withLobby (w.lobby.forget id)
    show Sends w ((Game.onM12Timeout env t.port t.gatheringId).run w1).2 _
    unfold Game.onM12Timeout
    rw [run_get_bind, Option.bind_some, show w1.lobby.get t.gatheringId = w.lobby.get t.gatheringId from rfl]
    cases hg : w.lobby.get t.gatheringId with
    | none => exact .of_grows (.of_same rfl)
    | some g =>
      by_cases hdone : g.receivedM12Pids = ∅ ∨ g.expectedM12Pids ⊆ g.receivedM12Pids
      · rw [Option.filter_some, if_neg (by simp [hdone])]
        simp only [if_pos hdone]
        exact .of_grows (.of_same rfl)
      · rw [Option.filter_some, if_pos (by simp [hdone])]
        simp only [if_neg hdone]
        exact batch_sends env (w := w1) t.port .timeout hg fun he => hdone (.inl he)

/-- **An event** sends the requests that are due, and no others. -/
theorem step_pushes (e : Event) {w : World} (hb : Offers.Bounded w) :
    Sends w (step env e w) (pushed env e w) := by
  unfold pushed
  cases hreq : requestOf env w e with
  | some r =>
    obtain ⟨port, c, req⟩ := r
    obtain ⟨body, w1, hr, hstep⟩ := step_request env hreq
    have hb1 : Offers.Bounded (w1.logged (.onPayload port c body)) := by
      refine ⟨?_, ?_, ?_, fun k => ?_⟩
      · show w1.lobby.registry.WellIndexed
        rw [hr.lobby]
        exact hb.indexed
      · show Capacity.AllCapped w1.lobby
        rw [hr.lobby]
        exact hb.capped
      · show w1.lobby.AllPlayers (· < 2 ^ 32)
        rw [hr.lobby]
        exact hb.players
      · exact (hr.userPid k).trans_lt (hb.pids k)
    have hs := respond_sends env hb1 port c req
    change Sends _ _ (requests env w1 port (requestDue env w1 port c req)) at hs
    rw [requestDue_congr env hr, requests_congr env hr] at hs
    have hbefore : Reserved w (w1.logged (.onPayload port c body)) :=
      trans_of Reserved ((transport_reserved env).received w w1 hr)
        ((transport_reserved env).logged w1 _ id)
    have hbehind := respond_send_of env (answer_unsent env port c) req
      (w1.logged (.onPayload port c body))
    rw [hstep]
    have hall := (Sends.of_later hbefore hs).trans (.of_grows hbehind)
    rw [List.append_nil] at hall
    exact hall
  | none =>
    have hsilent : (∀ id, e ≠ .timer id) → Sends w (step env e w) [] := fun hn =>
      .of_grows ((transport_reserved env).step (fun _ _ _ h => nomatch hreq.symm.trans h)
        fun id h => absurd h (hn id))
    cases e with
    | timer id => exact timer_sends env id w
    | packet port remote pkt => exact hsilent fun _ h => nomatch h
    | reap port timeout => exact hsilent fun _ h => nomatch h
    | elapse dt => exact hsilent fun _ h => nomatch h

/-! ## Whole runs -/

/-- The requests that a run sends, in order. -/
def pushedIn : List Event → World → List (Port × ConnId × Request)
  | [], _ => []
  | e :: es, w => pushed env e w ++ pushedIn es (step env e w)

theorem runs_pushes (es : List Event) {w : World} (hb : Offers.Bounded w) :
    Sends w (runs (step env) es w) (pushedIn env es w) := by
  induction es generalizing w with
  | nil => exact .of_grows (.of_same rfl)
  | cons e es ih => exact (step_pushes env e hb).trans (ih (Offers.step_bounded env e hb))

/-- **The server pushes what is due**, to whom it is due and in that order, and nothing else:
in every run from a server without lobbies. -/
theorem pushes_exact (w0 : World) (hl : w0.lobby = Lobby.empty)
    (hp : ∀ c, (w0.heap c).userPid < 2 ^ 32) (es : List Event) :
    Sends w0 (runs (step env) es w0) (pushedIn env es w0) :=
  runs_pushes env es (Offers.runs_bounded env hl hp [])

/-- A guest joins a lobby: the host is asked to probe the guest, both hear of the guest,
and the guest hears of the host. -/
theorem pushes_exact_join : ∃ rs, Sends (Offers.connected true)
    (runs (step Sample.env) (Offers.created ++ [Offers.search, Offers.join]) (Offers.connected true)) rs ∧
    rs.map (fun r => (r.2.1, r.2.2.proto, r.2.2.method)) =
      [(0, 3, 2), (0, 14, 1), (1, 14, 1), (1, 14, 1)] :=
  ⟨_, pushes_exact Sample.env (Offers.connected true) rfl (Offers.connected_pid true)
    (Offers.created ++ [Offers.search, Offers.join]), by decide +kernel⟩

end Pushed
end Ghostbusters
