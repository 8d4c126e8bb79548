import GhostbustersServer.Effects.Refinement

/-!
# The move of a request

`step_lobby` says which moves a request may make; these say which one it makes.

    step_create  step_join  step_close  step_reopen  step_end
-/

namespace Ghostbusters

open Py Act PRUDPServer

theorem Game.admitted_eq_some {w : World} {pid : Nat} {req : Request} {g : Gathering}
    (h : Game.admitted w pid req = some g) :
    w.lobby.get (leadingGid req) = some g ∧ Game.hostUrls w g ≠ [] ∧ g.isFull = false ∧
      (pid ∈ g.invitedPids ∨ 0 < g.publicRemaining) := by
  unfold Game.admitted at h
  split at h
  · cases h
  · split at h
    · cases h
    · next g' hg =>
      split at h
      · cases h
      · next hu =>
        split at h
        · cases h
        · next hn =>
          cases h
          rw [not_or, not_and_or, not_not] at hn
          refine ⟨hg, hu, by simpa using hn.1, hn.2.imp_right Nat.pos_of_ne_zero⟩

/-- A lobby that lets a player in is stored under its own id. -/
theorem Game.get_of_admitted {w : World} (hw : w.lobby.registry.WellIndexed) {pid : Nat}
    {req : Request} {g : Gathering} (h : Game.admitted w pid req = some g) :
    w.lobby.get g.id = some g := by
  have hget := (Game.admitted_eq_some h).1
  rw [hw.ids _ g hget]
  exact hget

/-- What an EndGame makes of the lobbies. -/
def Game.ended (l : Lobby) (pid : Nat) (req : Request) : Lobby :=
  match Game.endGameTarget l pid req with
  | none => l
  | some g =>
    if g.m12TimeoutHandle.isSome ∨ g.expectedM12Pids ≠ ∅ then (LobbyOp.cancel g.id).apply l else l

variable (env : Env)

/-- A request comes from an established connection. -/
theorem established_of_requestOf {e : Event} {w : World} {port : Port} {c : ConnId} {req : Request}
    (hreq : requestOf env w e = some (port, c, req)) :
    ∃ remote, (w.connections port).get? remote = some c ∧ (w.heap c).state = .established := by
  unfold requestOf at hreq
  split at hreq
  · cases hreq
  · next hb =>
    obtain ⟨remote, pkt, -, -, hc, hs, -⟩ := bodyOf_eq_some env hb
    split at hreq
    · cases hreq
      exact ⟨remote, hc, hs⟩
    · cases hreq

theorem joinHandler {req : Request} (h1 : req.proto = 60) (h2 : req.method = 5) :
    RMCDispatcher.handlerFor env req = some fun port c r => Game.joinGathering env port c r :=
  RMCDispatcher.handlerFor_eq env h1 h2 rfl

section
variable {e : Event} {w : World} {port : Port} {c : ConnId} {req : Request}
  (hreq : requestOf env w e = some (port, c, req))
include hreq

/-- The move of the lobbies is one of the request. -/
theorem step_performs (hw : w.lobby.registry.WellIndexed) :
    ∃ op, Performs env w port c req (step env e w) op ∧ (step env e w).lobby = op.apply w.lobby := by
  obtain ⟨body, w1, hr, hstep⟩ := step_request env hreq
  rw [hstep]
  exact (request_answered env hw hr port c body req).lobby

/-- What a handler makes of the lobbies, it makes of them in the step. -/
theorem lobby_of_handler {h : Handler} (hh : RMCDispatcher.handlerFor env req = some h) {l : Lobby}
    (hl : ∀ w2 : World, w2.lobby = w.lobby → (∀ k, (w2.heap k).session = (w.heap k).session) →
      ((h port c req).after w2).lobby = l) : (step env e w).lobby = l := by
  obtain ⟨body, w1, hr, hmute⟩ := step_handled env hreq hh
  rw [hmute.lobby]
  exact hl _ hr.lobby hr.session

theorem step_create (h1 : req.proto = 60) (h2 : req.method = 4) :
    (step env e w).lobby =
      (LobbyOp.create (w.heap c).userPid (w.heap c).remote req.params c).apply w.lobby := by
  have hhandler : RMCDispatcher.handlerFor env req = some fun _ c r => Game.createGathering c r :=
    RMCDispatcher.handlerFor_eq env h1 h2 rfl
  refine lobby_of_handler env hreq hhandler fun w2 hl hs => ?_
  rw [← show (w2.heap c).userPid = (w.heap c).userPid from (congrArg Connection.userPid (hs c) :),
    ← show (w2.heap c).remote = (w.heap c).remote from (congrArg Connection.remote (hs c) :), ← hl]
  rfl

theorem step_join (h1 : req.proto = 60) (h2 : req.method = 5) {g : Gathering}
    (hadm : Game.admitted w (w.heap c).userPid req = some g) :
    (step env e w).lobby = (LobbyOp.join g.id (w.heap c).userPid (pidName (w.heap c).userPid)
      (w.heap c).remote c).apply w.lobby := by
  refine lobby_of_handler env hreq (joinHandler env h1 h2) fun w2 hl hs => ?_
  have hpid : (w2.heap c).userPid = (w.heap c).userPid := (congrArg Connection.userPid (hs c) :)
  have hremote : (w2.heap c).remote = (w.heap c).remote := (congrArg Connection.remote (hs c) :)
  have hadm2 : Game.admitted w2 (w2.heap c).userPid req = some g := by
    rw [hpid, ← hadm]
    exact admitted_congr hl (fun k => (congrArg Connection.stationUrls (hs k) :)) _ req
  rw [(Game.joinGathering_quiet env w2 port c req g hadm2).lobby, ← hpid, ← hremote, ← hl]
  rfl

/-- The lobby of a CreateGathering. -/
theorem get_step_create (hw : w.lobby.registry.WellIndexed) (h1 : req.proto = 60)
    (h2 : req.method = 4) :
    (step env e w).lobby.get w.lobby.registry.gatheringIdSeq =
      some (GatheringRegistry.newGathering w.lobby.registry.gatheringIdSeq (w.heap c).userPid
        (w.heap c).remote req.params (some c)) := by
  rw [step_create env hreq h1 h2]
  show (w.lobby.registry.create _ _ _ (some c)).2.get _ = _
  rw [GatheringRegistry.get_create _ hw, if_pos rfl]

/-- The lobby of a JoinGathering that is let in. -/
theorem get_step_join (hw : w.lobby.registry.WellIndexed) (h1 : req.proto = 60)
    (h2 : req.method = 5) {g : Gathering}
    (hadm : Game.admitted w (w.heap c).userPid req = some g) :
    (step env e w).lobby.get g.id = some { g with
      participants := GatheringRegistry.joined g.participants (w.heap c).userPid
        (pidName (w.heap c).userPid) (w.heap c).remote (some c) } := by
  rw [step_join env hreq h1 h2 hadm]
  show (w.lobby.registry.addParticipant g.id _ _ _ (some c)).2.get g.id = _
  rw [GatheringRegistry.get_addParticipant, if_pos rfl,
    show w.lobby.registry.get g.id = some g from Game.get_of_admitted hw hadm]
  rfl

theorem step_close (h1 : req.proto = 60) (h2 : req.method = 19) (h0 : leadingGid req ≠ 0) :
    (step env e w).lobby = (LobbyOp.close (leadingGid req)).apply w.lobby := by
  have hhandler : RMCDispatcher.handlerFor env req = some fun _ _ r => Game.closeParticipation r :=
    RMCDispatcher.handlerFor_eq env h1 h2 rfl
  refine lobby_of_handler env hreq hhandler fun w2 hl _ => ?_
  unfold Game.closeParticipation
  simp only [if_pos h0]
  rw [← hl]
  rfl

theorem step_reopen (h1 : req.proto = 60) (h2 : req.method = 23) (h0 : leadingGid req ≠ 0) :
    (step env e w).lobby = (LobbyOp.reopen (leadingGid req)).apply w.lobby := by
  have hhandler : RMCDispatcher.handlerFor env req = some fun _ _ r => Game.openParticipation r :=
    RMCDispatcher.handlerFor_eq env h1 h2 rfl
  refine lobby_of_handler env hreq hhandler fun w2 hl _ => ?_
  unfold Game.openParticipation
  simp only [if_pos h0]
  rw [← hl]
  rfl

theorem step_end (h1 : req.proto = 60) (h2 : req.method = 15) :
    (step env e w).lobby = Game.ended w.lobby (w.heap c).userPid req := by
  have hhandler : RMCDispatcher.handlerFor env req =
      some fun port c r => Game.lifecycleStub env port c r :=
    RMCDispatcher.handlerFor_eq env h1 h2 rfl
  refine lobby_of_handler env hreq hhandler fun w2 hl hs => ?_
  have hpid : (w2.heap c).userPid = (w.heap c).userPid := (congrArg Connection.userPid (hs c) :)
  have hstub : Game.lifecycleStub env port c req = Game.endGame c req := by
    unfold Game.lifecycleStub
    rw [if_neg fun h => by rw [h2] at h; exact absurd h.1 (by decide), if_pos (show req.method = Game.methodEndGame from h2)]
  have hrun : ((Game.endGame c req).after w2).lobby = Game.ended w2.lobby (w2.heap c).userPid req := by
    unfold Game.endGame Game.ended Srv.conn after
    simp only [run_bind, run_get, run_pure]
    cases Game.endGameTarget w2.lobby (w2.heap c).userPid req with
    | none => rfl
    | some g =>
      simp only
      split <;> rfl
  simp only [hstub]
  rw [hrun, hl, hpid]

end

/-! ## Who gets into the lobbies -/

/-- Every owner and every participant. -/
def Lobby.AllPlayers (l : Lobby) (P : Nat → Prop) : Prop :=
  ∀ gid g, l.get gid = some g → P g.ownerPid ∧ ∀ p ∈ g.participants, P p.pid

theorem Lobby.allPlayers_empty (P : Nat → Prop) : Lobby.empty.AllPlayers P := by
  intro gid g hg
  cases hg

/-- A request that puts its sender into a lobby. -/
def Enters (w : World) (c : ConnId) (req : Request) : Prop :=
  req.proto = 60 ∧
    (req.method = 4 ∨ (req.method = 5 ∧ (Game.admitted w (w.heap c).userPid req).isSome))

instance (w : World) (c : ConnId) (req : Request) : Decidable (Enters w c req) := by
  unfold Enters
  infer_instance

/-- **Every move** lets in nobody but the sender of a request that enters. -/
theorem allPlayers_apply {P : Nat → Prop} {w w' : World} {e : Event} {op : LobbyOp}
    (hw : w.lobby.registry.WellIndexed) (hp : StepPerforms env w e w' op)
    (h : w.lobby.AllPlayers P)
    (hP : ∀ port c req, requestOf env w e = some (port, c, req) → Enters w c req →
      P (w.heap c).userPid) : (op.apply w.lobby).AllPlayers P := by
  intro gid g' hg'
  rcases op.back hw hg' with ⟨g, hg, ho, hps⟩ | ⟨pid, remote, raw, conn, hop, -, rfl⟩
  · obtain ⟨howner, hall⟩ := h gid g hg
    refine ⟨by rw [show g'.ownerPid = g.ownerPid from (congrArg Gathering.ownerPid ho :)]; exact howner, ?_⟩
    intro p hin
    generalize g'.participants = qs at hps hin
    cases hps with
    | kept hsub => exact hall p (hsub.subset hin)
    | @joined _ _ _ c hop =>
      subst hop
      cases hp with
      | request hreq hperf =>
        cases hperf with
        | join g1 h1 h2 hadm =>
          rcases GatheringRegistry.mem_joined hin with hold | ⟨hpid, -, -⟩
          · exact hall p hold
          · rw [hpid]
            exact hP _ c _ hreq ⟨h1, .inr ⟨h2, by rw [hadm]; rfl⟩⟩
  · subst hop
    cases hp with
    | request hreq hperf =>
      cases hperf with
      | create h1 h2 =>
        have hc := hP _ _ _ hreq ⟨h1, .inl h2⟩
        refine ⟨hc, ?_⟩
        intro p hin
        rw [List.mem_singleton.mp hin]
        exact hc

end Ghostbusters
