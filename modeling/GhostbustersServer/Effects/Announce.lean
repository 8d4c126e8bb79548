import GhostbustersServer.Effects.Tolerant

/-!
# Who tells clients of a roster

    respond_answers      the answer to a request is none itself
    step_unannounced     an event tells of a roster only if it delivers a request for
                         JoinGathering, LeaveGathering or DestroyGathering
-/

namespace Ghostbusters

open Py Act PRUDPServer

variable (env : Env)

/-! ## Answers -/

def Message.IsAnswer : Message → Prop
  | .request _ => False
  | _ => True

theorem Message.IsAnswer.noticeOf {m : Message} (h : m.IsAnswer) (port : Port) (c : ConnId) :
    Notification.noticeOf (.sent port c m) = none := by
  cases m with
  | request r => exact h.elim
  | ok r => rfl
  | error r => rfl

/-- The answer to a request: its protocol and call id, and if nothing went wrong its method. -/
def Message.AnswersTo (req : Request) : Message → Prop
  | .request _ => False
  | .ok r => r.proto = req.proto ∧ r.callId = req.callId ∧ r.method = req.method
  | .error r => r.proto = req.proto ∧ r.callId = req.callId

theorem Message.AnswersTo.isAnswer {req : Request} {m : Message} (h : m.AnswersTo req) :
    m.IsAnswer := by
  cases m <;> first | exact h.elim | trivial

theorem withParsed_answers {α : Type} {proto : Nat} (p : Act Reader Exc α) {req : Request}
    (h1 : req.proto = proto) {k : α → Srv Message}
    (h : ∀ a, Returns (Message.AnswersTo req) (k a)) :
    Returns (Message.AnswersTo req) (withParsed proto p req k) := by
  unfold withParsed
  split
  · exact Returns.pure ⟨h1.symm, rfl⟩
  · exact h _

theorem login_answers {req : Request} (h1 : req.proto = 10) (h2 : req.method = 1) :
    Returns (Message.AnswersTo req) (Authentication.login env req) := by
  apply withParsed_answers _ h1
  intro username
  split
  · exact Returns.pure ⟨h1.symm, rfl⟩
  · refine Returns.bind fun _ => Returns.bind fun _ => Returns.bind fun _ => ?_
    exact Returns.pure ⟨h1.symm, rfl, h2.symm⟩

theorem requestTicket_answers {req : Request} (h1 : req.proto = 10) (h2 : req.method = 3) :
    Returns (Message.AnswersTo req) (Authentication.requestTicket env req) := by
  apply withParsed_answers _ h1
  intro pids
  exact Returns.bind fun _ => Returns.bind fun _ => Returns.pure ⟨h1.symm, rfl, h2.symm⟩

theorem registerEx_answers (c : ConnId) {req : Request} (h1 : req.proto = 11) (h2 : req.method = 4) :
    Returns (Message.AnswersTo req) (SecureConnection.registerEx c req) := by
  apply withParsed_answers _ h1
  intro urls
  refine Returns.bind fun _ => Returns.bind fun _ => Returns.bind fun _ => ?_
  exact Returns.pure ⟨h1.symm, rfl, h2.symm⟩

theorem getAccountInfoPublicData_answers {req : Request} (h1 : req.proto = 25)
    (h2 : req.method = 9) :
    Returns (Message.AnswersTo req) (AccountManagement.getAccountInfoPublicData req) :=
  withParsed_answers _ h1 fun _ => Returns.pure ⟨h1.symm, rfl, h2.symm⟩

theorem updateParticipantInfo_answers {req : Request} (h1 : req.proto = 21) (h2 : req.method = 39) :
    Returns (Message.AnswersTo req) (Matchmaking.updateParticipantInfo req) :=
  Returns.pure ⟨h1.symm, rfl, h2.symm⟩

theorem requestProbeInitiation_answers (port : Port) (c : ConnId) {req : Request}
    (h1 : req.proto = 3) (h2 : req.method = 1) :
    Returns (Message.AnswersTo req) (NatTraversal.requestProbeInitiation env port c req) := by
  have hok : (NatTraversal.emptyOk req).AnswersTo req := ⟨h1.symm, rfl, h2.symm⟩
  unfold NatTraversal.requestProbeInitiation
  split
  · exact Returns.pure hok
  · refine Returns.bind fun w => ?_
    split
    · exact Returns.pure hok
    · exact Returns.bind fun _ => Returns.bind fun _ => Returns.pure hok

theorem destroyGathering_answers (port : Port) (c : ConnId) {req : Request} (h1 : req.proto = 21)
    (h2 : req.method = 36) :
    Returns (Message.AnswersTo req) (Matchmaking.destroyGathering env port c req) := by
  refine Returns.bind fun conn => Returns.bind fun w => ?_
  split
  · exact Returns.pure ⟨h1.symm, rfl, h2.symm⟩
  · split
    · exact Returns.bind fun _ => Returns.bind fun _ => Returns.pure ⟨h1.symm, rfl, h2.symm⟩
    · exact Returns.pure ⟨h1.symm, rfl, h2.symm⟩

namespace Game

section
variable {req : Request} (h1 : req.proto = 60)
include h1

theorem ok_answersTo (ret : Bytes) : (ok req ret).AnswersTo req := ⟨h1.symm, rfl, rfl⟩

theorem socialList_answers : Returns (Message.AnswersTo req) (socialList req) :=
  Returns.pure (ok_answersTo h1 [])

theorem userStats_answers : Returns (Message.AnswersTo req) (userStats env req) := by
  unfold userStats
  dsimp only
  split
  · exact Returns.bind fun _ => Returns.bind fun _ => Returns.pure (ok_answersTo h1 _)
  · split
    · exact Returns.bind fun _ => Returns.pure (ok_answersTo h1 _)
    · split <;> exact Returns.bind fun _ => Returns.pure (ok_answersTo h1 _)

theorem leaderboardQuery_answers (c : ConnId) :
    Returns (Message.AnswersTo req) (leaderboardQuery env c req) := by
  refine Returns.bind fun _ => Returns.bind fun _ => Returns.bind fun _ => ?_
  exact Returns.bind fun _ => Returns.pure (ok_answersTo h1 _)

theorem searchGatherings_answers : Returns (Message.AnswersTo req) (searchGatherings req) := by
  refine Returns.bind fun _ => Returns.bind fun _ => Returns.bind fun _ => ?_
  exact Returns.pure (ok_answersTo h1 _)

theorem quickMatch_answers (c : ConnId) : Returns (Message.AnswersTo req) (quickMatch c req) := by
  refine Returns.bind fun _ => Returns.bind fun _ => Returns.bind fun _ => ?_
  exact Returns.pure (ok_answersTo h1 _)

theorem createGathering_answers (c : ConnId) :
    Returns (Message.AnswersTo req) (createGathering c req) := by
  refine Returns.bind fun _ => Returns.bind fun _ => Returns.bind fun _ => ?_
  exact Returns.pure (ok_answersTo h1 _)

theorem welcome_answers (port : Port) (conn : Connection) (g : Gathering) :
    Returns (Message.AnswersTo req) (welcome env port conn g req) := by
  refine Returns.bind fun w => Returns.bind fun body => ?_
  split
  · refine Returns.bind fun _ => Returns.bind fun _ => Returns.bind fun _ => ?_
    exact Returns.pure (ok_answersTo h1 _)
  · exact Returns.bind fun _ => Returns.bind fun _ => Returns.pure (ok_answersTo h1 _)

theorem joinGathering_answers (port : Port) (c : ConnId) :
    Returns (Message.AnswersTo req) (joinGathering env port c req) := by
  refine Returns.bind fun conn => Returns.bind fun w => ?_
  split
  · exact Returns.pure ⟨h1.symm, rfl⟩
  · exact Returns.bind fun _ => Returns.bind fun w => welcome_answers env h1 port conn _

theorem leaveGathering_answers (port : Port) (c : ConnId) :
    Returns (Message.AnswersTo req) (leaveGathering env port c req) := by
  refine Returns.bind fun conn => Returns.bind fun w => ?_
  generalize w.lobby.registry.removeParticipant (leadingGid req) conn.userPid = out
  obtain ⟨removed, reg⟩ := out
  refine Returns.bind fun _ => ?_
  dsimp only
  split
  · split
    · exact Returns.bind fun _ => Returns.pure (ok_answersTo h1 _)
    · exact Returns.pure (ok_answersTo h1 _)
  · exact Returns.pure (ok_answersTo h1 _)

theorem lifecycleStub_answers (port : Port) (c : ConnId) :
    Returns (Message.AnswersTo req) (lifecycleStub env port c req) := by
  unfold lifecycleStub
  split
  · refine Returns.bind fun _ => Returns.bind fun _ => Returns.bind fun _ => ?_
    exact Returns.bind fun _ => Returns.bind fun _ => Returns.pure (ok_answersTo h1 _)
  · split
    · refine Returns.bind fun conn => Returns.bind fun w => ?_
      split
      · exact Returns.pure (ok_answersTo h1 _)
      · split
        · exact Returns.bind fun _ => Returns.pure (ok_answersTo h1 _)
        · exact Returns.pure (ok_answersTo h1 _)
    · exact Returns.pure (ok_answersTo h1 _)

theorem closeParticipation_answers :
    Returns (Message.AnswersTo req) (closeParticipation req) := by
  unfold closeParticipation
  dsimp only
  split
  · exact Returns.bind fun _ => Returns.bind fun _ => Returns.pure (ok_answersTo h1 _)
  · exact Returns.pure (ok_answersTo h1 _)

theorem openParticipation_answers : Returns (Message.AnswersTo req) (openParticipation req) := by
  unfold openParticipation
  dsimp only
  split
  · exact Returns.bind fun _ => Returns.pure (ok_answersTo h1 _)
  · exact Returns.pure (ok_answersTo h1 _)

end
end Game

/-- What a handler returns answers the request. -/
theorem handler_answers {req : Request} {h : Handler}
    (hh : RMCDispatcher.handlerFor env req = some h) (port : Port) (c : ConnId) :
    Returns (Message.AnswersTo req) (h port c req) := by
  have hm := mem_handlers env hh
  simp only [RMCDispatcher.handlers, List.mem_cons, Prod.mk.injEq, List.not_mem_nil, or_false] at hm
  rcases hm with ⟨⟨h1, h2⟩, rfl⟩ | ⟨⟨h1, h2⟩, rfl⟩ | ⟨⟨h1, h2⟩, rfl⟩ | ⟨⟨h1, h2⟩, rfl⟩ |
    ⟨⟨h1, h2⟩, rfl⟩ | ⟨⟨h1, h2⟩, rfl⟩ | ⟨⟨h1, h2⟩, rfl⟩ | ⟨⟨h1, -⟩, rfl⟩ | ⟨⟨h1, -⟩, rfl⟩ |
    ⟨⟨h1, -⟩, rfl⟩ | ⟨⟨h1, -⟩, rfl⟩ | ⟨⟨h1, -⟩, rfl⟩ | ⟨⟨h1, -⟩, rfl⟩ | ⟨⟨h1, -⟩, rfl⟩ |
    ⟨⟨h1, -⟩, rfl⟩ | ⟨⟨h1, -⟩, rfl⟩ | ⟨⟨h1, -⟩, rfl⟩ | ⟨⟨h1, -⟩, rfl⟩ | ⟨⟨h1, -⟩, rfl⟩ |
    ⟨⟨h1, -⟩, rfl⟩ | ⟨⟨h1, -⟩, rfl⟩ | ⟨⟨h1, -⟩, rfl⟩
  · exact login_answers env h1 h2
  · exact requestTicket_answers env h1 h2
  · exact registerEx_answers c h1 h2
  · exact getAccountInfoPublicData_answers h1 h2
  · exact destroyGathering_answers env port c h1 h2
  · exact updateParticipantInfo_answers h1 h2
  · exact requestProbeInitiation_answers env port c h1 h2
  · exact Game.createGathering_answers h1 c
  · exact Game.joinGathering_answers env h1 port c
  · exact Game.leaderboardQuery_answers env h1 c
  · exact Game.userStats_answers env h1
  · exact Game.socialList_answers h1
  · exact Game.lifecycleStub_answers env h1 port c
  · exact Game.lifecycleStub_answers env h1 port c
  · exact Game.leaveGathering_answers env h1 port c
  · exact Game.leaderboardQuery_answers env h1 c
  · exact Game.closeParticipation_answers h1
  · exact Game.searchGatherings_answers h1
  · exact Game.quickMatch_answers h1 c
  · exact Game.socialList_answers h1
  · exact Game.openParticipation_answers h1
  · exact Game.lifecycleStub_answers env h1 port c

/-- **Every answer**: the handler's, or the error of a request that has none or whose
handler raised. -/
theorem respond_answers (port : Port) (c : ConnId) (req : Request) :
    Returns (Message.AnswersTo req) (RMCDispatcher.respond env port c req) := by
  cases hh : RMCDispatcher.handlerFor env req with
  | none =>
    unfold RMCDispatcher.respond
    rw [hh]
    exact Returns.pure ⟨rfl, rfl⟩
  | some h =>
    intro w m w' hr
    rw [respond_run env hh] at hr
    have hm : RMCDispatcher.answerOf req ((h port c req).run w).1 = m := by
      cases hr
      rfl
    rw [← hm]
    rcases ho : (h port c req).run w with ⟨r, w1⟩
    cases r with
    | ok answer => exact handler_answers env hh port c w _ _ ho
    | error e => exact ⟨rfl, rfl⟩

section
variable {R : World → World → Prop} [IsPreorder World R] {port : Port} {c : ConnId}
  (hsend : ∀ msg, msg.IsAnswer → Within R (RMCDispatcher.send env port c msg))
include hsend

/-- The answer is the last thing that is sent. -/
theorem respond_send_of (req : Request) (w : World) :
    R ((RMCDispatcher.respond env port c req).after w)
      ((RMCDispatcher.respond env port c req >>= RMCDispatcher.send env port c).after w) := by
  unfold after
  rcases run_bind_cases (RMCDispatcher.respond env port c req) (RMCDispatcher.send env port c) w with
    ⟨e, he, hb⟩ | ⟨m, hm, hb⟩
  · rw [hb]
    exact refl_of R _
  · rw [hb]
    exact hsend m (respond_answers env port c req w m _ hm).isAnswer _

/-- An event that delivers a request for a handler, up to what lets answers pass. -/
theorem step_handled_of {e : Event} {w : World} {req : Request} {h : Handler}
    (hreq : requestOf env w e = some (port, c, req))
    (hh : RMCDispatcher.handlerFor env req = some h) :
    ∃ body w1, Received w w1 ∧
      R ((h port c req).after (w1.logged (.onPayload port c body))) (step env e w) := by
  obtain ⟨body, w1, hr, hstep⟩ := step_request env hreq
  refine ⟨body, w1, hr, ?_⟩
  have hlast := respond_send_of env hsend req (w1.logged (.onPayload port c body))
  rw [hstep]
  rw [respond_after_of env hh] at hlast
  exact hlast

end

theorem answer_mute (port : Port) (c : ConnId) (msg : Message) (h : msg.IsAnswer) :
    Within Mute (RMCDispatcher.send env port c msg) :=
  send_mute env port c msg (h.noticeOf port c)

theorem respond_send_after (port : Port) (c : ConnId) (req : Request) (w : World) :
    Mute ((RMCDispatcher.respond env port c req).after w)
      ((RMCDispatcher.respond env port c req >>= RMCDispatcher.send env port c).after w) :=
  respond_send_of env (answer_mute env port c) req w

theorem step_handled {e : Event} {w : World} {port : Port} {c : ConnId} {req : Request}
    {h : Handler} (hreq : requestOf env w e = some (port, c, req))
    (hh : RMCDispatcher.handlerFor env req = some h) :
    ∃ body w1, Received w w1 ∧
      Mute ((h port c req).after (w1.logged (.onPayload port c body))) (step env e w) :=
  step_handled_of env (answer_mute env port c) hreq hh

/-! ## Silent events -/

theorem TraceEntry.IsPlain.noticeOf {e : TraceEntry} (h : e.IsPlain) :
    Notification.noticeOf e = none := by
  cases e <;> first | rfl | exact h.elim

theorem tolerant_unannounced : Tolerant Unannounced where
  mute := fun _ _ h => h.unannounced
  plain := fun _ _ _ hl => hl.mono fun _ he => he.noticeOf

namespace Game

theorem persistMatch_unannounced (pid : Nat) (vec0 : List F32)
    (rows : List (Nat × LeaderboardRow)) : Within Unannounced (persistMatch env pid vec0 rows) := by
  refine Within.bind (Within.attempt fun w => LogGrows.of_same rfl) fun r => ?_
  cases r with
  | error e => exact Within.pure _
  | ok u =>
    refine Within.bind (Within.modify ?_) fun _ => Within.pure _
    intro w
    exact ⟨[.persisted pid vec0 rows], rfl, by simp [Notification.noticeOf]⟩

theorem reportStats_unannounced (port : Port) (c : ConnId) (req : Request) :
    Within Unannounced (reportStats env port c req) := by
  have hl := tolerant_unannounced.batching env
  refine reportStats_within hl ?_ ?_ port c req
  · intro pid params
    refine Within.bind (hl.getCareerVec0 _) fun v => ?_
    refine Within.bind (Within.ofExcept _) fun prior => ?_
    split
    · exact Within.pure _
    · exact Within.pure _
    · refine Within.bind (Within.ofExcept _) fun rows => ?_
      exact Within.bind (persistMatch_unannounced env _ _ rows) fun _ => Within.pure _
  · intro pid
    refine Within.bind Within.get fun w => Within.bind (Within.modify fun _ => ?_) fun _ => ?_
    · exact LogGrows.of_same rfl
    · exact Within.pure _

end Game

/-- **Who tells**: all other events are silent about rosters. -/
theorem step_unannounced (e : Event) (w : World)
    (hn : ∀ port c req, requestOf env w e = some (port, c, req) → ¬ req.Announces) :
    Unannounced w (step env e w) := by
  cases hreq : requestOf env w e with
  | none => exact step_within env tolerant_unannounced e w hreq
  | some r =>
    obtain ⟨port, c, req⟩ := r
    obtain ⟨body, w1, hr, hstep⟩ := step_request env hreq
    have ha := hn port c req hreq
    have h1 : Unannounced w (w1.logged (.onPayload port c body)) :=
      trans_of Unannounced (tolerant_unannounced.received hr)
        (tolerant_unannounced.logged w1 (e := .onPayload port c body) trivial)
    have h2 := respond_within (tolerant_unannounced.batching env).toLobbying port c req (fun h => absurd h ha)
      (fun h => absurd h ha) (fun h => absurd h ha)
      (fun _ => (registerEx_mute c req).mono tolerant_unannounced.mute)
      (fun _ => Game.reportStats_unannounced env port c req) (w1.logged (.onPayload port c body))
    rw [hstep]
    have h3 := (respond_send_after env port c req (w1.logged (.onPayload port c body))).unannounced
    exact trans_of Unannounced h1 (trans_of Unannounced h2 h3)

end Ghostbusters
