import GhostbustersServer.Effects.Moves
import GhostbustersServer.Effects.Pushes

/-!
# What a request is answered with

    step_answer            the answer of an event is what its handler came to
    search_answer          SearchGatherings, from the state before the event
    quick_answer           QuickMatch
    join_answer_iff        JoinGathering: when the answer is a success
-/

namespace Ghostbusters

open Py Act PRUDPServer

/-- The answer that has been handed to the transport last. -/
def World.answer (w : World) : Option Message :=
  match w.trace.getLast? with
  | some (.sent _ _ msg) => some msg
  | some (.sendFailed _ _ msg) => some msg
  | _ => none

variable (env : Env)

theorem answer_logged (w : World) (port : Port) (c : ConnId) (msg : Message) :
    (w.logged (.sent port c msg)).answer = some msg ∧
      (w.logged (.sendFailed port c msg)).answer = some msg := by
  unfold World.answer World.logged
  simp only [List.getLast?_concat, and_self]

/-- The answer is in the log, whether it can be encoded or not. -/
theorem send_answer (port : Port) (c : ConnId) (msg : Message) (w : World) :
    ((RMCDispatcher.send env port c msg).after w).answer = some msg := by
  unfold RMCDispatcher.send after
  rw [run_attempt_bind]
  generalize (RMCDispatcher.sendMessage env c msg).run w = out
  obtain ⟨r, w'⟩ := out
  cases r with
  | ok u => exact (answer_logged w' port c msg).1
  | error e => exact (answer_logged w' port c msg).2

/-- **The answer of an event.** -/
theorem step_answer {e : Event} {w : World} {port : Port} {c : ConnId} {req : Request} {h : Handler}
    (hreq : requestOf env w e = some (port, c, req))
    (hh : RMCDispatcher.handlerFor env req = some h) :
    ∃ body w1, Received w w1 ∧ (step env e w).answer = some
      (RMCDispatcher.answerOf req ((h port c req).run (w1.logged (.onPayload port c body))).1) := by
  obtain ⟨body, w1, hr, hstep⟩ := step_request env hreq
  refine ⟨body, w1, hr, ?_⟩
  rw [hstep]
  unfold after
  rw [run_bind_ok (respond_run env hh _)]
  exact send_answer env port c _ _

/-- From a state that is the same to whoever looks at the lobbies and their players. -/
theorem answer_seen {e : Event} {w : World} {port : Port} {c : ConnId} {req : Request} {h : Handler}
    (hreq : requestOf env w e = some (port, c, req))
    (hh : RMCDispatcher.handlerFor env req = some h) :
    ∃ w' : World, w'.lobby = w.lobby ∧ (∀ k, (w'.heap k).stationUrls = (w.heap k).stationUrls) ∧
      (∀ k, (w'.heap k).userPid = (w.heap k).userPid) ∧
      (step env e w).answer = some (RMCDispatcher.answerOf req ((h port c req).run w').1) := by
  obtain ⟨body, w1, hr, hans⟩ := step_answer env hreq hh
  exact ⟨w1.logged (.onPayload port c body), hr.lobby, hr.stationUrls, hr.userPid, hans⟩

/-! ## Browsing -/

namespace Game

/-- The lobbies a search finds. -/
def searchMatches (w : World) (request : Request) : Except Exc (List Gathering) :=
  let joinable := w.lobby.registry.allGatherings.filter fun g => 0 < g.publicRemaining && !g.closed
  match (if request.params = [] then none else parseFilterParams request.params) with
  | some f => if f.anySet then filterMatches f joinable else .ok joinable
  | none => .ok joinable

/-- The lobby a quick match finds, if any. -/
def quickMatches (w : World) (userPid : Nat) (request : Request) : List Gathering :=
  let ranked := match request.params with
    | [] => 1
    | b :: _ => b.toNat
  (w.lobby.registry.allGatherings.find? (quickMatchCandidate w userPid ranked)).toList

theorem searchGatherings_run (w : World) (req : Request) :
    (searchGatherings req).run w =
      ((do
        let gs ← searchMatches w req
        let body ← renderMatches w gs
        return ok req body), w) := by
  have hrun : (searchGatherings req).run w = (Act.ofExcept (searchMatches w req) >>= fun gs =>
      Act.ofExcept (renderMatches w gs) >>= fun body => (pure (ok req body) : Srv Message)).run w :=
    rfl
  rw [hrun, run_bind, run_ofExcept]
  cases searchMatches w req with
  | error e => rfl
  | ok gs =>
    show (Act.ofExcept (renderMatches w gs) >>= fun body => (pure (ok req body) : Srv Message)).run w =
      ((do let body ← renderMatches w gs; return ok req body), w)
    cases renderMatches w gs <;> rfl

theorem quickMatch_run (w : World) (c : ConnId) (req : Request) :
    (quickMatch c req).run w =
      ((do
        let body ← renderMatches w (quickMatches w (w.heap c).userPid req)
        return ok req body), w) := by
  unfold quickMatch quickMatches Srv.conn
  simp only [run_bind, run_get, run_pure, run_ofExcept]
  generalize renderMatches w _ = rendered
  cases rendered <;> rfl

theorem renderMatches_congr {w w' : World}
    (hu : ∀ k, (w'.heap k).stationUrls = (w.heap k).stationUrls) (gs : List Gathering) :
    renderMatches w' gs = renderMatches w gs := by
  unfold renderMatches
  simp only [hostUrls_congr hu]

theorem searchMatches_congr {w w' : World} (hl : w'.lobby = w.lobby) (req : Request) :
    searchMatches w' req = searchMatches w req := by
  unfold searchMatches
  rw [hl]

theorem quickMatches_congr {w w' : World} (hl : w'.lobby = w.lobby)
    (hu : ∀ k, (w'.heap k).stationUrls = (w.heap k).stationUrls) (pid : Nat) (req : Request) :
    quickMatches w' pid req = quickMatches w pid req := by
  have hcand : ∀ ranked, quickMatchCandidate w' pid ranked = quickMatchCandidate w pid ranked := by
    intro ranked
    funext g
    unfold quickMatchCandidate
    rw [hostUrls_congr hu]
  unfold quickMatches
  simp only [hcand, hl]

end Game

section
variable {e : Event} {w : World} {port : Port} {c : ConnId} {req : Request}
  (hreq : requestOf env w e = some (port, c, req))
include hreq

theorem search_answer (h1 : req.proto = 60) (h2 : req.method = 20) :
    (step env e w).answer = some (RMCDispatcher.answerOf req (do
      let gs ← Game.searchMatches w req
      let body ← Game.renderMatches w gs
      return Game.ok req body)) := by
  have hhandler : RMCDispatcher.handlerFor env req = some fun _ _ r => Game.searchGatherings r :=
    RMCDispatcher.handlerFor_eq env h1 h2 rfl
  obtain ⟨w', hl, hu, -, hans⟩ := answer_seen env hreq hhandler
  rw [hans, Game.searchGatherings_run, Game.searchMatches_congr hl]
  simp only [Game.renderMatches_congr hu]

theorem quick_answer (h1 : req.proto = 60) (h2 : req.method = 21) :
    (step env e w).answer = some (RMCDispatcher.answerOf req (do
      let body ← Game.renderMatches w (Game.quickMatches w (w.heap c).userPid req)
      return Game.ok req body)) := by
  have hhandler : RMCDispatcher.handlerFor env req = some fun _ c r => Game.quickMatch c r :=
    RMCDispatcher.handlerFor_eq env h1 h2 rfl
  obtain ⟨w', hl, hu, hpid, hans⟩ := answer_seen env hreq hhandler
  rw [hans, Game.quickMatch_run, hpid, Game.quickMatches_congr hl hu, Game.renderMatches_congr hu]

/-- A join that is refused. -/
theorem join_answer_of_refused (h1 : req.proto = 60) (h2 : req.method = 5)
    (hadm : Game.admitted w (w.heap c).userPid req = none) :
    (step env e w).answer = some (Game.sessionVoid req) := by
  obtain ⟨w', hl, hu, hpid, hans⟩ := answer_seen env hreq (joinHandler env h1 h2)
  have hadm' : Game.admitted w' (w'.heap c).userPid req = none := by
    rw [hpid, admitted_congr hl hu]
    exact hadm
  rw [hans]
  simp only [Game.joinGathering_refused env w' port c req hadm']
  rfl

/-- **A join that is let in** is answered with a success exactly when everyone can be told. -/
theorem join_answer_iff (h1 : req.proto = 60) (h2 : req.method = 5) {g : Gathering}
    (hadm : Game.admitted w (w.heap c).userPid req = some g) (hg : w.lobby.get g.id = some g)
    (hid : g.id < 2 ^ 32) (howner : g.ownerPid < 2 ^ 32)
    (hcount : (w.joined c g).participants.length < 2 ^ 32) :
    (∃ r, (step env e w).answer = some (.ok r)) ↔
      AllGo env w.heap (w.serverCallId port) (joinPushes w port c g) = true := by
  obtain ⟨body, w1, hr, hans⟩ := step_answer env hreq (joinHandler env h1 h2)
  have hadm1 : Game.admitted w1 (w1.heap c).userPid req = some g := by
    rw [hr.userPid, admitted_congr hr.lobby hr.stationUrls]
    exact hadm
  have hiff := @Game.joinGathering_ok_iff env (w1.logged (.onPayload port c body)) port c req g
    hadm1 ((congrArg (fun l => l.get g.id) hr.lobby).trans hg) hid howner
    (by rw [show (w1.logged _).joined c g = w.joined c g from joined_congr hr c g]; exact hcount)
  have hgo : AllGo env (w1.logged (.onPayload port c body)).heap
      ((w1.logged (.onPayload port c body)).serverCallId port) (joinPushes w port c g) =
        AllGo env w.heap (w.serverCallId port) (joinPushes w port c g) := allGo_received env hr port _
  rw [show joinPushes (w1.logged _) port c g = joinPushes w port c g from joinPushes_congr hr port c g,
    hgo] at hiff
  rw [← hiff, hans]
  generalize ((Game.joinGathering env port c req).run (w1.logged _)).1 = out
  cases out with
  | ok m => simp only [RMCDispatcher.answerOf, Option.some.injEq, Except.ok.injEq]
  | error e => simp [RMCDispatcher.answerOf, RMCDispatcher.failed]

end
end Ghostbusters
