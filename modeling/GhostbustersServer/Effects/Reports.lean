import GhostbustersServer.Effects.Pushes

/-!
# The stages of a ReportStats

    Accepted env pid params d     nothing raises before the upload is stored
    reportStats_refused           else the lookup of the career is all that has happened
    reportStats_counted           then the upload is stored and counted before the rest runs
    reportStats_arrives           the rest is the batch, if the log line raises nothing
    announceBatch_ok_iff          when a batch that is fired can be announced

Each stage is written as a function of the state that the report finds.
-/

namespace Ghostbusters

open Py Act

variable (env : Env)

namespace Game

/-! ## Up to the counter -/

/-- The lookup of a career. -/
def lookupCareer (pid : Nat) : Act Db Exc (Option (List F32)) := do
  Db.dbCon env
  Career.getCareer env pid

/-- What `_get_career_vec0` makes of it. -/
def careerRead (pid : Nat) (d : Db) : List F32 :=
  match ((lookupCareer env pid).run d).1 with
  | .ok (some v) => v
  | _ => defaultCareerVec0

theorem getCareerVec0_run (pid : Nat) (w : World) : (getCareerVec0 env pid).run w =
    (.ok (careerRead env pid w.db), { w with db := (lookupCareer env pid).after w.db }) := rfl

/-- What an upload has to store: the career and the leaderboard rows, if there is a career. -/
def uploadOf (pid : Nat) (params : Bytes) :
    Except Exc (Option (List F32 × List (Nat × LeaderboardRow))) :=
  match parseM12SenderVec0 params pid with
  | none => .ok none
  | some [] => .ok none
  | some vec0 => do
    let rows ← computeLeaderboardRows vec0 (parseM12SenderVec1 params pid)
    return some (vec0, rows)

/-- The career has a cash slot, and the rows can be computed. -/
def Accepted (pid : Nat) (params : Bytes) (d : Db) : Prop :=
  5 < (careerRead env pid d).length ∧ (uploadOf pid params).isOk = true

instance (pid : Nat) (params : Bytes) (d : Db) : Decidable (Accepted env pid params d) := by
  unfold Accepted
  infer_instance

/-- The database with the upload, or without if it could not be written. -/
def storedDb (pid : Nat) (params : Bytes) (d : Db) : Db :=
  match uploadOf pid params with
  | .ok (some u) => (matchTransaction env pid u.1 u.2).after ((lookupCareer env pid).after d)
  | _ => (lookupCareer env pid).after d

theorem index_ok {v : List F32} {i : Nat} (h : i < v.length) : ∃ x, index v i = .ok x := by
  unfold index
  rw [List.getElem?_eq_getElem h]
  exact ⟨_, rfl⟩

theorem index_error {v : List F32} {i : Nat} (h : ¬ i < v.length) :
    index v i = .error .indexError := by
  unfold index
  rw [List.getElem?_eq_none (Nat.not_lt.mp h)]

theorem storeReport_refused {pid : Nat} {params : Bytes} {w : World}
    (h : ¬ Accepted env pid params w.db) : ∃ e, (storeReport env pid params).run w =
      (.error e, { w with db := (lookupCareer env pid).after w.db }) := by
  unfold storeReport
  rw [run_bind_ok (getCareerVec0_run env pid w)]
  by_cases hlen : 5 < (careerRead env pid w.db).length
  · obtain ⟨x, hx⟩ := index_ok hlen
    have hu : ¬ (uploadOf pid params).isOk = true := fun hu => h ⟨hlen, hu⟩
    unfold uploadOf at hu
    rw [hx]
    cases h0 : parseM12SenderVec0 params pid with
    | none =>
      rw [h0] at hu
      exact absurd rfl hu
    | some vec0 =>
      cases vec0 with
      | nil =>
        rw [h0] at hu
        exact absurd rfl hu
      | cons y ys =>
        rw [h0] at hu
        cases hr : computeLeaderboardRows (y :: ys) (parseM12SenderVec1 params pid) with
        | error e =>
          refine ⟨e, ?_⟩
          show (Act.ofExcept (computeLeaderboardRows (y :: ys) (parseM12SenderVec1 params pid)) >>=
            fun rows => _).run _ = _
          rw [hr]
          rfl
        | ok rows =>
          dsimp only at hu
          rw [hr] at hu
          exact absurd rfl hu
  · rw [index_error hlen]
    exact ⟨_, rfl⟩

/-- An exception of the transaction is swallowed, and nothing but the database changes. -/
theorem persistMatch_run (pid : Nat) (vec0 : List F32) (rows : List (Nat × LeaderboardRow))
    (w : World) : ∃ new,
      (persistMatch env pid vec0 rows).run w =
        (.ok ((matchTransaction env pid vec0 rows).run w.db).1.isOk, { w with
          db := (matchTransaction env pid vec0 rows).after w.db, trace := w.trace ++ new }) ∧
      ∀ e ∈ new, ∃ vec0 rows, e = .persisted pid vec0 rows := by
  have hpair : (matchTransaction env pid vec0 rows).run w.db =
      (((matchTransaction env pid vec0 rows).run w.db).1,
        (matchTransaction env pid vec0 rows).after w.db) := rfl
  generalize ((matchTransaction env pid vec0 rows).run w.db).1 = res at hpair
  unfold persistMatch Srv.useDb
  rw [run_attempt_bind, run_zoom, hpair]
  cases res with
  | error e =>
    refine ⟨[], ?_, by simp⟩
    rw [List.append_nil]
    rfl
  | ok u =>
    refine ⟨[.persisted pid vec0 rows], rfl, ?_⟩
    intro e he
    exact ⟨_, _, List.mem_singleton.mp he⟩

theorem storeReport_accepted {pid : Nat} {params : Bytes} {w : World}
    (h : Accepted env pid params w.db) : ∃ r new,
      (storeReport env pid params).run w =
        (.ok r, { w with db := storedDb env pid params w.db, trace := w.trace ++ new }) ∧
      ∀ e ∈ new, ∃ vec0 rows, e = .persisted pid vec0 rows := by
  obtain ⟨hlen, hu⟩ := h
  obtain ⟨x, hx⟩ := index_ok hlen
  unfold storeReport storedDb
  rw [run_bind_ok (getCareerVec0_run env pid w), hx]
  unfold uploadOf at hu ⊢
  cases h0 : parseM12SenderVec0 params pid with
  | none =>
    refine ⟨(x, x), [], ?_, by simp⟩
    rw [List.append_nil]
    rfl
  | some vec0 =>
    cases vec0 with
    | nil =>
      refine ⟨(x, x), [], ?_, by simp⟩
      rw [List.append_nil]
      rfl
    | cons y ys =>
      rw [h0] at hu
      dsimp only at hu ⊢
      cases hr : computeLeaderboardRows (y :: ys) (parseM12SenderVec1 params pid) with
      | error e =>
        rw [hr] at hu
        cases hu
      | ok rows =>
        obtain ⟨new, hp, hnew⟩ := persistMatch_run env pid (y :: ys) rows
          { w with db := (lookupCareer env pid).after w.db }
        refine ⟨(x, (y :: ys).getD 5 x), new, ?_, hnew⟩
        exact run_bind_ok hp _

/-- The counter of a player, one up. -/
def bumped (pid : Nat) (w : World) : Dict Nat Nat :=
  w.statsTxnId.set pid ((w.statsTxnId.get? pid).getD 0 + 1)

/-- A state with the upload stored and counted, but for the log. -/
def counted (pid : Nat) (params : Bytes) (w : World) : World :=
  { w with db := storedDb env pid params w.db, statsTxnId := bumped pid w }

/-- **Before the store**, a report that raises has only looked up the career. -/
theorem reportStats_refused {w : World} {c : ConnId} {req : Request} (port : Port)
    (h : ¬ Accepted env (w.heap c).userPid req.params w.db) :
    ∃ e, (reportStats env port c req).run w =
      (.error e, { w with db := (lookupCareer env (w.heap c).userPid).after w.db }) := by
  obtain ⟨e, he⟩ := storeReport_refused env h
  exact ⟨e, run_bind_error he _⟩

/-- The masks of the log line, of the career that was uploaded. -/
def masksOf (pid : Nat) (params : Bytes) : Except Exc Unit :=
  logMasks ((parseM12SenderVec0 params pid).getD [])

/-- **Behind it** the upload is stored and counted, whatever happens. -/
theorem reportStats_counted {w : World} {c : ConnId} {req : Request} (port : Port)
    (h : Accepted env (w.heap c).userPid req.params w.db) : ∃ body new,
      (reportStats env port c req).run w =
        (Act.ofExcept (masksOf (w.heap c).userPid req.params) >>= fun _ =>
          trackReport env port (w.heap c).userPid >>= fun _ => (pure (ok req body) : Srv Message)).run
        { counted env (w.heap c).userPid req.params w with trace := w.trace ++ new } ∧
      ∀ e ∈ new, ∃ vec0 rows, e = .persisted (w.heap c).userPid vec0 rows := by
  obtain ⟨r, new, hr, hnew⟩ := storeReport_accepted env h
  refine ⟨buildSparkstatsReply (w.heap c).userPid r.1 r.2
    ((w.statsTxnId.get? (w.heap c).userPid).getD 0 + 1), new, ?_, hnew⟩
  exact run_bind_ok hr _

/-- A report that gets to the batch: it is accepted, and its masks are numbers. -/
def Arrives (pid : Nat) (params : Bytes) (d : Db) : Prop :=
  Accepted env pid params d ∧ (masksOf pid params).isOk = true

instance (pid : Nat) (params : Bytes) (d : Db) : Decidable (Arrives env pid params d) := by
  unfold Arrives
  infer_instance

theorem counted_calm (pid : Nat) (params : Bytes) (w : World) {new : List TraceEntry}
    (hnew : ∀ e ∈ new, ∃ vec0 rows, e = .persisted pid vec0 rows) :
    Calm w { counted env pid params w with trace := w.trace ++ new } := by
  refine ⟨fun _ => rfl, rfl, rfl, rfl, rfl, new, rfl, fun e he => ?_⟩
  obtain ⟨vec0, rows, rfl⟩ := hnew e he
  exact .inr ⟨pid, vec0, rows, rfl⟩

/-- A report that does not get there leaves the lobbies alone. -/
theorem reportStats_lost {w : World} {c : ConnId} {req : Request} (port : Port)
    (h : ¬ Arrives env (w.heap c).userPid req.params w.db) :
    Calm w ((reportStats env port c req).after w) := by
  unfold after
  by_cases hacc : Accepted env (w.heap c).userPid req.params w.db
  · obtain ⟨body, new, hrun, hnew⟩ := reportStats_counted env port hacc
    have hm : ¬ (masksOf (w.heap c).userPid req.params).isOk = true := fun hm => h ⟨hacc, hm⟩
    rw [hrun]
    cases hmask : masksOf (w.heap c).userPid req.params with
    | error e => exact counted_calm env _ _ w hnew
    | ok u =>
      rw [hmask] at hm
      exact absurd rfl hm
  · obtain ⟨e, hrun⟩ := reportStats_refused env port hacc
    rw [hrun]
    exact ⟨fun _ => rfl, rfl, rfl, rfl, rfl, .of_same rfl⟩

/-- **One that does** leaves what the batch makes of it. -/
theorem reportStats_arrives {w : World} {c : ConnId} {req : Request} (port : Port)
    (h : Arrives env (w.heap c).userPid req.params w.db) : ∃ new,
      (∀ e ∈ new, ∃ vec0 rows, e = .persisted (w.heap c).userPid vec0 rows) ∧
      (reportStats env port c req).after w = (trackReport env port (w.heap c).userPid).after
        { counted env (w.heap c).userPid req.params w with trace := w.trace ++ new } := by
  obtain ⟨body, new, hrun, hnew⟩ := reportStats_counted env port h.1
  refine ⟨new, hnew, ?_⟩
  unfold after
  rw [hrun]
  cases hmask : masksOf (w.heap c).userPid req.params with
  | error e =>
    have hm := h.2
    rw [hmask] at hm
    cases hm
  | ok u =>
    let w1 : World := { counted env (w.heap c).userPid req.params w with trace := w.trace ++ new }
    show ((trackReport env port (w.heap c).userPid >>= fun _ =>
      (pure (ok req body) : Srv Message)).run w1).2 = _
    rcases run_bind_cases (trackReport env port (w.heap c).userPid)
      (fun _ => (pure (ok req body) : Srv Message)) w1 with ⟨e, -, hb⟩ | ⟨a, -, hb⟩
    · rw [hb]
      rfl
    · rw [hb]
      rfl

/-- A batch that a report completes is in the log. -/
theorem trackReport_fired (port : Port) {pid : Nat} {w : World} (hw : w.lobby.registry.WellIndexed)
    {g : Gathering} (h : completing w.lobby pid = some g) : ∃ rest,
      ((trackReport env port pid).after w).trace =
        w.trace ++ .statsBatch g.id .allReported g.pids :: rest := by
  obtain ⟨g0, hs, rfl, -⟩ := completing_eq_some h
  have hne : (reported g0 pid).receivedM12Pids ≠ ∅ :=
    Finset.ne_empty_of_mem (mem_received_reported g0 pid)
  have hfire := fire_spec env port g0.id .allReported (w.withLobby (w.lobby.addReport g0.id pid)) _
    (get_addReport_sender hw hs) hne
  unfold after at hfire ⊢
  rw [trackReport_fires env port hw h, id_reported]
  exact hfire.first

/-- The step that delivers an upload is the report, up to what lets answers pass. -/
theorem step_uploads {R : World → World → Prop} [IsPreorder World R] {e : Event} {w : World} {port : Port}
    {c : ConnId} {req : Request} (hsend : ∀ msg, msg.IsAnswer → Within R (RMCDispatcher.send env port c msg))
    (hreq : PRUDPServer.requestOf env w e = some (port, c, req)) (hu : req.Uploads) :
    ∃ body w1, Received w w1 ∧
      R ((reportStats env port c req).after (w1.logged (.onPayload port c body))) (step env e w) := by
  have hh : RMCDispatcher.handlerFor env req = some fun port c r => lifecycleStub env port c r :=
    RMCDispatcher.handlerFor_eq env hu.1 hu.2.1 rfl
  have hrep : lifecycleStub env port c req = reportStats env port c req := if_pos hu.2
  obtain ⟨body, w1, hr, hstep⟩ := step_handled_of env hsend hreq hh
  rw [hrep] at hstep
  exact ⟨body, w1, hr, hstep⟩

/-! ## The events of a batch -/

/-- The reads behind `careerCashOf`. -/
def readCash (g : Gathering) : Act Db Exc (List (Nat × F32)) :=
  Act.mapEach g.participants fun p => do
    Db.dbCon env
    let x ← Career.careerCash env p.pid
    return (p.pid, x)

theorem mapEach_useDb {α β : Type} (xs : List β) (f : β → Act Db Exc α) (w : World) :
    (Act.mapEach xs fun x => Srv.useDb (f x)).run w = (Srv.useDb (Act.mapEach xs f)).run w := by
  induction xs generalizing w with
  | nil => rfl
  | cons x xs ih =>
    show (Srv.useDb (f x) >>= fun a => Act.mapEach xs (fun x => Srv.useDb (f x)) >>= fun as =>
      pure (a :: as)).run w = (Srv.useDb (f x >>= fun a => Act.mapEach xs f >>= fun as =>
        pure (a :: as))).run w
    unfold Srv.useDb at ih ⊢
    simp only [run_bind, run_zoom]
    generalize (f x).run w.db = out
    obtain ⟨r, d⟩ := out
    cases r with
    | error e => rfl
    | ok a =>
      simp only [ih, run_zoom]
      generalize (Act.mapEach xs f).run d = out
      obtain ⟨r, d'⟩ := out
      cases r <;> rfl

/-- The pushes of `pushStatsProcessed`. -/
def statsPushes (w : World) (port : Port) (g : Gathering) (sourcePid : Nat) (txnIds : Dict Nat Nat)
    (careerCash : Dict Nat F32) : List Push :=
  g.participants.filterMap fun p => ((w.connections port).get? p.remote).map fun c =>
    .event c (Notification.buildStatsProcessed g.id sourcePid p.pid ((txnIds.get? p.pid).getD 0)
      ((careerCash.get? p.pid).getD 0))

/-- The events of a batch that is fired in `w`, with this cash. -/
def batchPushes (w : World) (port : Port) (g : Gathering) (cash : List (Nat × F32)) : List Push :=
  statsPushes w port g (env.firstOf g.receivedM12Pids) w.statsTxnId (Dict.ofEntries cash)

theorem pushStatsProcessed_run {w w' : World} (h : SameView w w') (port : Port) (g : Gathering)
    (sourcePid : Nat) (txnIds : Dict Nat Nat) (careerCash : Dict Nat F32) :
    (Notification.pushStatsProcessed env port g sourcePid txnIds careerCash).run w' =
      (Act.forEach (statsPushes w port g sourcePid txnIds careerCash) (Push.send env port)).run w' := by
  refine run_forEach_filterMap (I := SameView w) _ ?_ ?_ g.participants h
  · intro p s hs
    unfold Notification.pushTo
    rw [run_get_bind, hs.connections]
    cases (w.connections port).get? p.remote <;> rfl
  · intro p s hs
    exact trans_of SameView hs (send_sameView env port p s)

theorem announceBatch_unread (port : Port) {g : Gathering} {w : World} {e : Exc}
    (h : ((readCash env g).run w.db).1 = .error e) : (announceBatch env port g).run w =
      (.error e, { w with db := (readCash env g).after w.db }) := by
  refine run_bind_error (run_bind_error ?_ _) _
  rw [mapEach_useDb]
  unfold Srv.useDb
  rw [run_zoom]
  exact Prod.ext h rfl

theorem announceBatch_run (port : Port) {g : Gathering} {w : World} {cash : List (Nat × F32)}
    (h : ((readCash env g).run w.db).1 = .ok cash) : (announceBatch env port g).run w =
      (Act.forEach (batchPushes env w port g cash) (Push.send env port)).run
        { w with db := (readCash env g).after w.db } := by
  have hread : (careerCashOf env g).run w =
      (.ok (Dict.ofEntries cash), { w with db := (readCash env g).after w.db }) := by
    refine run_bind_ok (a := cash) ?_ _
    rw [mapEach_useDb]
    unfold Srv.useDb
    rw [run_zoom]
    exact Prod.ext h rfl
  unfold announceBatch
  rw [run_bind_ok hread, run_get_bind]
  exact pushStatsProcessed_run env ⟨rfl, fun _ => rfl⟩ port g _ _ _

/-- The cash of the participants can be read, and their events can be encoded. -/
def Announces (w : World) (port : Port) (g : Gathering) : Prop :=
  ∃ cash, ((readCash env g).run w.db).1 = .ok cash ∧
    AllGo env w.heap (w.serverCallId port) (batchPushes env w port g cash) = true

/-- **When a batch can be announced.** -/
theorem announceBatch_ok_iff (port : Port) (g : Gathering) (w : World) :
    (∃ w', (announceBatch env port g).run w = (.ok (), w')) ↔ Announces env w port g := by
  cases hr : ((readCash env g).run w.db).1 with
  | error e =>
    rw [announceBatch_unread env port hr]
    refine iff_of_false ?_ ?_
    · rintro ⟨w', h⟩
      cases h
    · rintro ⟨cash, hc, -⟩
      cases hr.symm.trans hc
  | ok cash =>
    rw [announceBatch_run env port hr]
    have hone : Announces env w port g ↔
        AllGo env w.heap (w.serverCallId port) (batchPushes env w port g cash) = true := by
      constructor
      · rintro ⟨cash', hc, hgo⟩
        cases hr.symm.trans hc
        exact hgo
      · exact fun hgo => ⟨cash, hr, hgo⟩
    rw [hone]
    let w1 : World := { w with db := (readCash env g).after w.db }
    constructor
    · rintro ⟨w', h⟩
      by_contra hn
      rw [Bool.not_eq_true] at hn
      obtain ⟨e, w2, he⟩ := sendAll_fails env port (batchPushes env w port g cash) w1 hn
      cases h.symm.trans he
    · intro hgo
      obtain ⟨w2, h, -⟩ := sendAll_tells env port (batchPushes env w port g cash) w1 hgo
      exact ⟨w2, h⟩

end Game
end Ghostbusters
