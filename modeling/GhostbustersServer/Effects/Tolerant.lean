import GhostbustersServer.Effects.Steps

/-!
# Relations that most of the code is within

    Lobbying env R     R is closed, and lets pass lobby moves
    Batching env R     and fired batches
    Telling env R      R is lobbying, and lets pass pushed news of a roster
    Tolerant R         R lets pass what is mute, and every change that spares the database
                       and logs neither a message nor a stored upload

    Pushless.respond   a request is within a relation that lets pass lobby moves and what
                       pushes nothing, if its handler is when it is one of six: those that
                       push, uploads, and registrations
    respond_within     a request is within a lobbying relation, if its handler is when it is
                       one of five: those that push news of a roster, uploads, and
                       registrations
    step_within        an event that delivers no request is within a tolerant one
-/

namespace Ghostbusters

open Py Act PRUDPServer

/-- A ReportStats with something in it. -/
def Request.Uploads (req : Request) : Prop := req.proto = 60 ∧ req.method = 12 ∧ req.params ≠ []

instance (req : Request) : Decidable req.Uploads := by
  unfold Request.Uploads
  infer_instance

/-- A request whose handler may push news of a roster. -/
def Request.Announces (req : Request) : Prop :=
  (req.proto = 60 ∧ (req.method = 5 ∨ req.method = 16)) ∨ (req.proto = 21 ∧ req.method = 36)

/-- A request whose handler may push probes only. -/
def Request.Probes (req : Request) : Prop := req.proto = 3 ∧ req.method = 1

instance (req : Request) : Decidable req.Probes := by
  unfold Request.Probes
  infer_instance

/-- A request that registers the URLs of its connection. -/
def Request.Registers (req : Request) : Prop := req.proto = 11 ∧ req.method = 4

instance (req : Request) : Decidable req.Registers := by
  unfold Request.Registers
  infer_instance

structure Lobbying (env : Env) (R : World → World → Prop) : Prop extends Closed env R where
  modifyLobby : ∀ f, Within R (Srv.modifyLobby f)

structure Batching (env : Env) (R : World → World → Prop) : Prop extends Lobbying env R where
  batch : ∀ gid reason roster, Within R (Srv.log (.statsBatch gid reason roster))
  announce : ∀ port g, Within R (Game.announceBatch env port g)

structure Telling (env : Env) (R : World → World → Prop) : Prop extends Lobbying env R where
  /-- an event that is no stats event -/
  event : ∀ port c source type param1 param2 text, type < 2 ^ 32 →
    type ≠ Notification.eventStatsProcessed →
    Within R (RMCDispatcher.sendRequest env port c Notification.proto
      Notification.methodProcessEvent
      (Notification.buildNotificationEvent source type param1 param2 text))

variable (env : Env)

/-! ## Handlers -/

section
variable {env} {R : World → World → Prop} [IsPreorder World R]
  (hl : ∀ f, Within R (Srv.modifyLobby f))
include hl

namespace Game

theorem createGathering_within (c : ConnId) (req : Request) : Within R (createGathering c req) := by
  refine Within.bind (conn_within c) fun conn => ?_
  refine Within.bind Within.get fun w => ?_
  exact Within.bind (hl _) fun _ => Within.pure _

theorem closeParticipation_within (req : Request) : Within R (closeParticipation req) := by
  unfold closeParticipation
  dsimp only
  split
  · refine Within.bind (hl _) fun _ => ?_
    exact Within.bind (hl _) fun _ => Within.pure _
  · exact Within.pure _

theorem openParticipation_within (req : Request) : Within R (openParticipation req) := by
  unfold openParticipation
  dsimp only
  split
  · exact Within.bind (hl _) fun _ => Within.pure _
  · exact Within.pure _

theorem endGame_within (c : ConnId) (req : Request) : Within R (endGame c req) := by
  refine Within.bind (conn_within c) fun conn => ?_
  refine Within.bind Within.get fun w => ?_
  split
  · exact Within.pure _
  · split
    · exact Within.bind (hl _) fun _ => Within.pure _
    · exact Within.pure _

/-- m 12, 15 and 26, but for an upload. -/
theorem lifecycleStub_within (port : Port) (c : ConnId) (req : Request) (h1 : req.proto = 60)
    (hu : req.Uploads → Within R (reportStats env port c req)) :
    Within R (lifecycleStub env port c req) := by
  unfold lifecycleStub
  split
  · next h2 => exact hu ⟨h1, h2.1, h2.2⟩
  · split
    · exact endGame_within hl c req
    · exact Within.pure _

end Game

/-- **Every request**, with six handlers to look at. -/
theorem Pushless.respond (h : Pushless env R) (port : Port) (c : ConnId) (req : Request)
    (hjoin : req.Announces → Within R (Game.joinGathering env port c req))
    (hleave : req.Announces → Within R (Game.leaveGathering env port c req))
    (hdestroy : req.Announces → Within R (Matchmaking.destroyGathering env port c req))
    (hprobe : req.Probes → Within R (NatTraversal.requestProbeInitiation env port c req))
    (hregister : req.Registers → Within R (SecureConnection.registerEx c req))
    (hreport : req.Uploads → Within R (Game.reportStats env port c req)) :
    Within R (RMCDispatcher.respond env port c req) := by
  intro w
  show R w ((RMCDispatcher.respond env port c req).after w)
  rcases respond_after env w port c req with ⟨-, hw⟩ | ⟨handler, hh, hw⟩
  · rw [hw]
    exact refl_of R w
  rw [hw]
  have hm := mem_handlers env hh
  simp only [RMCDispatcher.handlers, List.mem_cons, Prod.mk.injEq, List.not_mem_nil, or_false] at hm
  rcases hm with ⟨-, rfl⟩ | ⟨-, rfl⟩ | ⟨hr, rfl⟩ | ⟨-, rfl⟩ | ⟨hr, rfl⟩ | ⟨-, rfl⟩ | ⟨hr, rfl⟩ |
    ⟨-, rfl⟩ | ⟨hr, rfl⟩ | ⟨-, rfl⟩ | ⟨-, rfl⟩ | ⟨-, rfl⟩ | ⟨hr, rfl⟩ | ⟨hr, rfl⟩ | ⟨hr, rfl⟩ |
    ⟨-, rfl⟩ | ⟨-, rfl⟩ | ⟨-, rfl⟩ | ⟨-, rfl⟩ | ⟨-, rfl⟩ | ⟨-, rfl⟩ | ⟨hr, rfl⟩
  · exact h.login req w
  · exact h.requestTicket req w
  · exact hregister hr w
  · exact Pushless.getAccountInfoPublicData req w
  · exact hdestroy (.inr hr) w
  · exact refl_of R w
  · exact hprobe hr w
  · exact Game.createGathering_within hl c req w
  · exact hjoin (.inl ⟨hr.1, .inl hr.2⟩) w
  · exact h.leaderboardQuery c req w
  · exact h.userStats req w
  · exact refl_of R w
  · exact Game.lifecycleStub_within hl port c req hr.1 hreport w
  · exact Game.lifecycleStub_within hl port c req hr.1 hreport w
  · exact hleave (.inl ⟨hr.1, .inr hr.2⟩) w
  · exact h.leaderboardQuery c req w
  · exact Game.closeParticipation_within hl req w
  · exact Pushless.searchGatherings req w
  · exact Pushless.quickMatch c req w
  · exact refl_of R w
  · exact Game.openParticipation_within hl req w
  · exact Game.lifecycleStub_within hl port c req hr.1 hreport w

end

/-- **Every request**, with five handlers to look at. -/
theorem respond_within {env} {R : World → World → Prop} (h : Lobbying env R) [IsPreorder World R]
    (port : Port) (c : ConnId) (req : Request)
    (hjoin : req.Announces → Within R (Game.joinGathering env port c req))
    (hleave : req.Announces → Within R (Game.leaveGathering env port c req))
    (hdestroy : req.Announces → Within R (Matchmaking.destroyGathering env port c req))
    (hregister : req.Registers → Within R (SecureConnection.registerEx c req))
    (hreport : req.Uploads → Within R (Game.reportStats env port c req)) :
    Within R (RMCDispatcher.respond env port c req) :=
  h.toPushless.respond h.modifyLobby port c req hjoin hleave hdestroy
    (fun _ => h.toClosed.requestProbeInitiation port c req) hregister hreport

/-! ## Batches -/

section
variable {env} {R : World → World → Prop} (h : Batching env R) [IsPreorder World R]
include h

namespace Game

theorem fireStatsProcessedBatch_within (port : Port) (gid : Nat) (reason : Reason) :
    Within R (fireStatsProcessedBatch env port gid reason) := by
  refine Within.bind Within.get fun w => ?_
  split
  · exact Within.pure _
  · next g _ =>
    refine Within.bind (h.batch _ _ _) fun _ => ?_
    refine Within.bind (h.modifyLobby _) fun _ => ?_
    split
    · exact Within.pure _
    · exact Within.bind (h.announce port g) fun _ => h.modifyLobby _

theorem trackReport_within (port : Port) (pid : Nat) : Within R (trackReport env port pid) := by
  refine Within.bind Within.get fun w => ?_
  split
  · exact Within.pure _
  · refine Within.bind (h.modifyLobby _) fun _ => ?_
    refine Within.bind (h.modifyLobby _) fun _ => ?_
    refine Within.bind Within.get fun w => ?_
    split
    · exact Within.pure _
    · split
      · exact fireStatsProcessedBatch_within h port _ _
      · split
        · exact h.modifyLobby _
        · exact Within.pure _

theorem onM12Timeout_within (port : Port) (gid : Nat) : Within R (onM12Timeout env port gid) := by
  refine Within.bind Within.get fun w => ?_
  split
  · exact Within.pure _
  · split
    · exact h.modifyLobby _
    · exact fireStatsProcessedBatch_within h port gid _

/-- An upload, behind what stores it. -/
theorem reportStats_within (hstore : ∀ pid params, Within R (storeReport env pid params))
    (hbump : ∀ pid, Within R (bumpTxn pid)) (port : Port) (c : ConnId) (req : Request) :
    Within R (reportStats env port c req) := by
  refine Within.bind (conn_within c) fun conn => ?_
  refine Within.bind (hstore _ _) fun cash => Within.bind (hbump _) fun txn => ?_
  refine Within.bind (Within.ofExcept _) fun _ => ?_
  exact Within.bind (trackReport_within h port _) fun _ => Within.pure _

end Game

theorem expire_within (id : TimerId) : Within R (expire env id) := by
  refine Within.bind Within.get fun w => ?_
  split
  · exact Within.pure _
  · exact Within.bind (h.modifyLobby _) fun _ => Game.onM12Timeout_within h _ _

end

/-! ## News of a roster -/

namespace Telling

variable {env} {R : World → World → Prop} [IsPreorder World R] (h : Telling env R)
include h

theorem broadcast (port : Port) (recipients : List Participant) (subject type gid : Nat)
    (ht : type < 2 ^ 32) (hs : type ≠ Notification.eventStatsProcessed) :
    Within R (Notification.broadcast env port recipients subject type gid) := by
  apply Within.forEach
  intro p _
  split
  · exact Within.pure _
  · refine Within.bind Within.get fun w => ?_
    split
    · exact Within.pure _
    · exact h.event port _ _ _ _ _ _ ht hs

theorem pushParticipantsToJoiner (port : Port) (g : Gathering) (joinerPid : Nat) :
    Within R (Notification.pushParticipantsToJoiner env port g joinerPid) := by
  unfold Notification.pushParticipantsToJoiner
  split
  · exact Within.pure _
  · refine Within.bind Within.get fun w => ?_
    split
    · exact Within.pure _
    · apply Within.forEach
      intro p _
      exact Within.bind Within.get fun w => h.event port _ _ _ _ _ _ (by decide) (by decide)

theorem joinGathering (port : Port) (c : ConnId) (req : Request) :
    Within R (Game.joinGathering env port c req) := by
  refine Within.bind (conn_within c) fun conn => ?_
  refine Within.bind Within.get fun w => ?_
  split
  · exact Within.pure _
  · refine Within.bind (h.modifyLobby _) fun _ => Within.bind Within.get fun w => ?_
    refine Within.bind Within.get fun w => Within.bind (Within.ofExcept _) fun body => ?_
    have hrest : ∀ g : Gathering, Within R (do
        Notification.pushJoin env port g conn.userPid
        Notification.pushParticipantsToJoiner env port g conn.userPid
        return Game.ok req body : Srv Message) := by
      intro g
      refine Within.bind (h.broadcast port _ _ _ _ (by decide) (by decide)) fun _ => ?_
      exact Within.bind (h.pushParticipantsToJoiner port _ _) fun _ => Within.pure _
    split
    · exact Within.bind (h.toClosed.pushProbes port _ _) fun _ => hrest _
    · exact hrest _

theorem leaveGathering (port : Port) (c : ConnId) (req : Request) :
    Within R (Game.leaveGathering env port c req) := by
  refine Within.bind (conn_within c) fun conn => ?_
  refine Within.bind Within.get fun w => ?_
  generalize w.lobby.registry.removeParticipant (leadingGid req) conn.userPid = out
  obtain ⟨removed, reg⟩ := out
  refine Within.bind (h.modifyLobby _) fun _ => ?_
  dsimp only
  split
  · split
    · refine Within.bind ?_ fun _ => Within.pure _
      exact h.broadcast port _ _ _ _ (by decide) (by decide)
    · exact Within.pure _
  · exact Within.pure _

theorem destroyGathering (port : Port) (c : ConnId) (req : Request) :
    Within R (Matchmaking.destroyGathering env port c req) := by
  refine Within.bind (conn_within c) fun conn => ?_
  refine Within.bind Within.get fun w => ?_
  split
  · exact Within.pure _
  · split
    · refine Within.bind (h.broadcast port _ _ _ _ (by decide) (by decide)) fun _ => ?_
      exact Within.bind (h.modifyLobby _) fun _ => Within.pure _
    · exact Within.pure _

/-- **Every request**, with uploads and registrations to look at. -/
theorem respond (port : Port) (c : ConnId) (req : Request)
    (hregister : req.Registers → Within R (SecureConnection.registerEx c req))
    (hreport : req.Uploads → Within R (Game.reportStats env port c req)) :
    Within R (RMCDispatcher.respond env port c req) :=
  respond_within h.toLobbying port c req (fun _ => h.joinGathering port c req)
    (fun _ => h.leaveGathering port c req) (fun _ => h.destroyGathering port c req) hregister hreport

end Telling

/-! ## Tolerant relations -/

/-- An entry that is neither about a message nor about a stored upload. -/
def TraceEntry.IsPlain : TraceEntry → Prop
  | .sendto _ _ | .connectAck _ | .onPayload _ _ _ | .closeHooks _ _ | .statsBatch _ _ _ => True
  | _ => False

theorem TraceEntry.IsPacket.isPlain {e : TraceEntry} (h : e.IsPacket) : e.IsPlain := by
  cases e <;> first | exact h | exact h.elim

structure Tolerant (R : World → World → Prop) : Prop where
  mute : ∀ w w', Mute w w' → R w w'
  plain : ∀ w w', w'.db = w.db → LogGrows TraceEntry.IsPlain w w' → R w w'

section
variable {R : World → World → Prop} (h : Tolerant R)
include h

theorem Tolerant.logged (w : World) {e : TraceEntry} (he : e.IsPlain) : R w (w.logged e) :=
  h.plain w _ rfl ⟨[e], rfl, by simpa using he⟩

theorem Tolerant.batching : Batching env R where
  toClosed := (mute_closed env).mono h.mute
  modifyLobby := fun _ => Within.modify fun w => h.plain w _ rfl (.of_same rfl)
  batch := fun _ _ _ => Within.modify fun w => h.logged w trivial
  announce := fun port g => (Game.announceBatch_mute env port g).mono h.mute

theorem Tolerant.received {w w1 : World} (hr : Received w w1) : R w w1 :=
  h.plain w w1 hr.db (hr.packets.mono fun _ he => he.isPlain)

variable [IsPreorder World R]

theorem foldl_evicted_within (port : Port) (remotes : List Remote) (w : World) :
    R w (remotes.foldl (fun w remote => w.evicted port remote) w) := by
  induction remotes generalizing w with
  | nil => exact refl_of R w
  | cons remote remotes ih =>
    have h1 : R w (w.evicted port remote) :=
      h.plain w _ rfl ⟨[.closeHooks port remote], rfl, by simp [TraceEntry.IsPlain]⟩
    exact trans_of R h1 (ih (w.evicted port remote))

/-- **Every event** that delivers no request. -/
theorem step_within (e : Event) (w : World) (hn : requestOf env w e = none) :
    R w (step env e w) := by
  have hsame : ∀ w', w'.db = w.db → w'.trace = w.trace → R w w' := fun w' hd ht =>
    h.plain w w' hd (.of_same ht)
  generalize hw' : step env e w = w'
  have hstep := step_cases env e w
  rw [hw'] at hstep
  cases hstep with
  | still hb hr => exact h.received hr
  | @syn port remote pkt _ ht hq =>
    exact trans_of R (hsame (w.synReceived env port remote) rfl rfl) (h.mute _ _ hq.mute)
  | @connect port remote pkt c _ hc hp hq =>
    exact trans_of R (hsame (w.withConn c (w.established c pkt)) rfl rfl) (h.mute _ _ hq.mute)
  | @connectAck port remote pkt c sessionKey pid check _ hc hp hq =>
    have h1 := hsame (w.withConn c
      { w.established c pkt with sessionKey := sessionKey, userPid := pid }) rfl rfl
    have h2 := trans_of R h1 (h.logged _ (e := .connectAck c) trivial)
    exact trans_of R h2 (h.mute _ _ hq.mute)
  | @unhandled _ port c body w1 hb hn hr =>
    exact trans_of R (h.received hr) (h.logged w1 (e := .onPayload port c body) trivial)
  | request hb hreq hr => cases hn.symm.trans hreq
  | strayDisconnect ht hc => exact foldl_evicted_within h _ [_] w
  | @disconnect port remote pkt c w1 ht hc hr =>
    have h1 : R w1 (w1.withConn c { w1.heap c with state := .closed }) :=
      h.plain w1 _ rfl (.of_same rfl)
    have h2 := trans_of R (h.received hr) h1
    exact trans_of R h2 (foldl_evicted_within h port [remote] _)
  | reap => exact foldl_evicted_within h _ _ w
  | timer => exact expire_within (h.batching env) _ w

end
/-! ## Sessions -/

theorem framed_batching : Batching env Framed where
  toClosed := (mute_closed env).mono fun _ _ h => h.toQuiet.framed
  modifyLobby := fun f => Within.modify fun w => framed_withLobby w (f w.lobby)
  batch := fun gid reason roster => Within.modify fun w =>
    ⟨fun _ => rfl, rfl, rfl, rfl, [_], rfl, by
      intro e he
      exact .inr ⟨gid, reason, roster, List.mem_singleton.mp he⟩⟩
  announce := fun port g => (Game.announceBatch_mute env port g).mono fun _ _ h => h.toQuiet.framed

theorem framed_telling : Telling env Framed where
  toLobbying := (framed_batching env).toLobbying
  event := fun port c _ _ _ _ _ _ _ =>
    (sendRequest_quiet env port c _ _ _).mono fun _ _ h => h.framed

/-- **Every request** leaves tables and sessions of the connections alone. -/
theorem respond_framed (port : Port) (c : ConnId) (req : Request) :
    Within Framed (RMCDispatcher.respond env port c req) :=
  (framed_telling env).respond port c req
    (fun _ => (registerEx_mute c req).mono fun _ _ h => h.toQuiet.framed) fun _ =>
    Game.reportStats_within (framed_batching env)
      (fun pid params => (Game.storeReport_calm env pid params).mono fun _ _ h => h.framed)
      (fun pid => (Game.bumpTxn_calm pid).mono fun _ _ h => h.framed) port c req

end Ghostbusters
