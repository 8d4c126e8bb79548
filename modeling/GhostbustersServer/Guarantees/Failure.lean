import GhostbustersServer.Effects.Reports
import GhostbustersServer.Guarantees.Sample

/-!
# A ReportStats that fails

    Untouched w w'       the stored stats, the counters and the batches are the same
    harmless_iff         a report whose answer is an error leaves them untouched, exactly if
                         behind the store nothing can raise: the masks of the log line are
                         numbers, and a batch that it completes can be announced

What raises before the store has changed nothing yet.
-/

namespace Ghostbusters
namespace Failure

open Py Act

variable (env : Env)

structure Untouched (w w' : World) : Prop where
  stats : w'.db.tables.stats = w.db.tables.stats
  txns : w'.statsTxnId = w.statsTxnId
  batches : ∀ gid, (w'.lobby.get gid).map Gathering.batch = (w.lobby.get gid).map Gathering.batch

/-- A failure response comes with nothing changed. -/
def Harmless (port : Port) (c : ConnId) (req : Request) (w : World) : Prop :=
  ∀ r w', (RMCDispatcher.respond env port c req).run w = (.ok (.error r), w') → Untouched w w'

/-- **The condition.**  A report that gets to the store has masks that are numbers; and the
batch it completes, if any, can be announced from what it has stored and counted. -/
def SafeBehind (port : Port) (c : ConnId) (req : Request) (w : World) : Prop :=
  req.params ≠ [] → Game.Accepted env (w.heap c).userPid req.params w.db →
    (Game.masksOf (w.heap c).userPid req.params).isOk = true ∧
    ∀ g, Game.completing w.lobby (w.heap c).userPid = some g →
      Game.Announces env (Game.counted env (w.heap c).userPid req.params w) port g

/-- A read leaves the tables alone. -/
theorem lookupCareer_tables (pid : Nat) : Within (Fixes Db.tables) (Game.lookupCareer env pid) := by
  have hread : Within (Fixes Db.tables) (Db.read env) := by
    refine Within.bind Within.get fun d => Within.bind (Within.modify fun _ => rfl) fun _ => ?_
    split
    · exact Within.raise _
    · exact Within.pure _
  refine Within.bind (Within.bind Within.get fun d => ?_) fun _ => ?_
  · split
    · exact Within.pure _
    · refine Within.bind (Within.bind hread fun _ => Within.pure _) fun _ => ?_
      exact Within.modify fun _ => rfl
  · exact Within.bind hread fun _ => Within.pure _

theorem bumped_ne (pid : Nat) (w : World) : Game.bumped pid w ≠ w.statsTxnId := by
  intro he
  have hget := Dict.get?_set_self w.statsTxnId pid ((w.statsTxnId.get? pid).getD 0 + 1)
  change (Game.bumped pid w).get? pid = _ at hget
  rw [he] at hget
  rw [hget, Option.getD_some] at hget
  exact absurd (Option.some.inj hget) (Nat.ne_of_lt (Nat.lt_succ_self _))

/-- What the announcement is read from. -/
theorem announces_congr {w w' : World} (hdb : w'.db = w.db) (hheap : w'.heap = w.heap)
    (hrest : w'.connections = w.connections ∧ w'.serverCallId = w.serverCallId ∧
      w'.statsTxnId = w.statsTxnId) (port : Port) (g : Gathering) :
    Game.Announces env w' port g ↔ Game.Announces env w port g := by
  obtain ⟨hconn, hcall, htxn⟩ := hrest
  unfold Game.Announces Game.batchPushes Game.statsPushes
  rw [hdb, hheap, hconn, hcall, htxn]

/-- How the batch comes out decides how the report does; the counters stay up. -/
theorem trackReport_ok_iff (port : Port) (pid : Nat) {w : World} (hw : w.lobby.registry.WellIndexed) :
    ((∃ w', (Game.trackReport env port pid).run w = (.ok (), w')) ↔
      ∀ g, Game.completing w.lobby pid = some g → Game.Announces env w port g) ∧
    ((Game.trackReport env port pid).after w).statsTxnId = w.statsTxnId := by
  cases hc : Game.completing w.lobby pid with
  | none =>
    have hrun := Game.trackReport_waits env port hw hc true
    refine ⟨iff_of_true ⟨_, hrun⟩ fun g hg => (by cases hg), ?_⟩
    unfold after
    rw [hrun]
    rfl
  | some g =>
    obtain ⟨g0, hs, rfl, hsub⟩ := Game.completing_eq_some hc
    have hget := Game.get_addReport_sender hw hs
    have hne : (Game.reported g0 pid).receivedM12Pids ≠ ∅ :=
      Finset.ne_empty_of_mem (Game.mem_received_reported g0 pid)
    let w1 := Game.firing g0.id .allReported (Game.reported g0 pid).pids
      (w.withLobby (w.lobby.addReport g0.id pid))
    have hrun : (Game.trackReport env port pid).run w =
        (Game.announceBatch env port (Game.reported g0 pid) >>= fun _ =>
          Srv.setGathering g0.id Game.clearBatch).run w1 := by
      rw [Game.trackReport_fires env port hw hc, Game.id_reported]
      exact Game.fire_run env port .allReported hget hne
    have hsame : Game.Announces env w1 port (Game.reported g0 pid) ↔
        Game.Announces env w port (Game.reported g0 pid) :=
      announces_congr env rfl rfl ⟨rfl, rfl, rfl⟩ port _
    have hq : ((Game.announceBatch env port (Game.reported g0 pid)).after w1).statsTxnId =
        w.statsTxnId := (Game.announceBatch_mute env port _ w1).statsTxnId
    have hok := Game.announceBatch_ok_iff env port (Game.reported g0 pid) w1
    rw [hsame] at hok
    unfold after at hq ⊢
    rw [hrun]
    rcases run_bind_cases (Game.announceBatch env port (Game.reported g0 pid))
      (fun _ => Srv.setGathering g0.id Game.clearBatch) w1 with ⟨e, he, hb⟩ | ⟨u, hu, hb⟩
    · rw [hb]
      refine ⟨iff_of_false ?_ ?_, hq⟩
      · rintro ⟨w', h⟩
        cases h
      · intro hall
        obtain ⟨w', h⟩ := hok.mpr (hall _ rfl)
        cases he.symm.trans h
    · rw [hb]
      refine ⟨iff_of_true ⟨_, rfl⟩ ?_, hq⟩
      intro g hg
      cases hg
      exact hok.mp ⟨_, hu⟩

/-- The response is the outcome of the handler. -/
theorem harmless_iff_handler {port : Port} {c : ConnId} {req : Request} {w : World}
    (h1 : req.proto = 60) (h2 : req.method = 12) : Harmless env port c req w ↔
      ∀ r, RMCDispatcher.answerOf req ((Game.lifecycleStub env port c req).run w).1 = .error r →
        Untouched w ((Game.lifecycleStub env port c req).run w).2 := by
  have hh : RMCDispatcher.handlerFor env req =
      some fun port c r => Game.lifecycleStub env port c r :=
    RMCDispatcher.handlerFor_eq env h1 h2 rfl
  unfold Harmless
  rw [respond_run env hh]
  constructor
  · intro h r hr
    refine h r _ ?_
    rw [hr]
    rfl
  · intro h r w' hr
    rw [Prod.mk.injEq, Except.ok.injEq] at hr
    rw [← hr.2]
    exact h r hr.1

/-- **Reports that fail without a trace**: for every state with a sound registry, as every
run keeps it, every sender and every params. -/
theorem harmless_iff {w : World} (hw : w.lobby.registry.WellIndexed) (port : Port) (c : ConnId)
    {req : Request} (h1 : req.proto = 60) (h2 : req.method = 12) :
    Harmless env port c req w ↔ SafeBehind env port c req w := by
  rw [harmless_iff_handler env h1 h2]
  by_cases h3 : req.params = []
  · -- it is only acknowledged
    have hrun : (Game.lifecycleStub env port c req).run w = (.ok (Game.ok req []), w) := by
      unfold Game.lifecycleStub
      rw [if_neg fun h => h.2 h3, if_neg (by rw [h2]; decide)]
      rfl
    rw [hrun]
    exact iff_of_true (fun r hr => by cases hr) fun hn => absurd h3 hn
  have hrep : Game.lifecycleStub env port c req = Game.reportStats env port c req :=
    if_pos ⟨h2, h3⟩
  rw [hrep]
  by_cases hacc : Game.Accepted env (w.heap c).userPid req.params w.db
  · obtain ⟨body, new, hrun, -⟩ := Game.reportStats_counted env port hacc
    let w1 : World := { Game.counted env (w.heap c).userPid req.params w with
      trace := w.trace ++ new }
    have hcounted : ∀ w', w'.statsTxnId = w1.statsTxnId → ¬ Untouched w w' := fun w' htxn h =>
      bumped_ne _ _ (htxn.symm.trans h.txns)
    cases hm : Game.masksOf (w.heap c).userPid req.params with
    | error e =>
      have hr : (Game.reportStats env port c req).run w = (.error e, w1) := by
        rw [hrun, hm]
        rfl
      rw [hr]
      refine iff_of_false (fun h => hcounted w1 rfl (h _ rfl)) fun h => ?_
      have hok := (h h3 hacc).1
      rw [hm] at hok
      cases hok
    | ok u =>
      have hr : (Game.reportStats env port c req).run w =
          (Game.trackReport env port (w.heap c).userPid >>= fun _ =>
            (pure (Game.ok req body) : Srv Message)).run w1 := by
        rw [hrun, hm]
        rfl
      obtain ⟨hiff, htxn⟩ := trackReport_ok_iff env port (w.heap c).userPid (w := w1) hw
      have hsame : ∀ g, Game.Announces env w1 port g ↔
          Game.Announces env (Game.counted env (w.heap c).userPid req.params w) port g := fun g =>
        announces_congr env rfl rfl ⟨rfl, rfl, rfl⟩ port g
      rw [hr]
      rcases run_bind_cases (Game.trackReport env port (w.heap c).userPid)
        (fun _ => (pure (Game.ok req body) : Srv Message)) w1 with ⟨e, he, hb⟩ | ⟨u, hu, hb⟩
      · rw [hb]
        refine iff_of_false (fun h => hcounted _ htxn (h _ rfl)) fun h => ?_
        obtain ⟨w', hok⟩ := hiff.mpr fun g hg => (hsame g).mpr ((h h3 hacc).2 g hg)
        cases he.symm.trans hok
      · rw [hb]
        refine iff_of_true (fun r hr => by cases hr) fun _ _ => ⟨by rw [hm]; rfl, fun g hg => ?_⟩
        exact (hsame g).mp (hiff.mp ⟨_, hu⟩ g hg)
  · obtain ⟨e, hr⟩ := Game.reportStats_refused env port hacc
    rw [hr]
    refine iff_of_true (fun r _ => ⟨?_, rfl, fun _ => rfl⟩) fun _ h => absurd h hacc
    exact congrArg Tables.stats (lookupCareer_tables env (w.heap c).userPid w.db)

/-! ## Two uploads -/

/-- An upload of one entry: this career, and these mode blocks. -/
def upload (vec0 vec1 : List F32) : Request where
  proto := 60
  method := 12
  callId := 1
  params := wU32 10000 ++ wU32 1 ++ wU32 1 ++ wU32 10000 ++ wU16 0 ++ wU32 0 ++
    wU32 vec0.length ++ vec0.flatMap Career.packF32 ++
    wU32 vec1.length ++ vec1.flatMap Career.packF32 ++ wU32 0

/-- A quiet NaN. -/
def nan : F32 := 0x7fc00000

/-- A player with an account, online. -/
def online : World :=
  { Sample.world [Sample.connection .auth 1 10000] with
    db := { Db.migrated with
      tables := { Db.migrated.tables with
        accounts := Db.migrated.tables.accounts.set 10000 "p".toList } } }

/-- The mask in slot 14 is no number. -/
def nanMask : Request := upload (List.replicate 14 0 ++ [nan]) []

/-- It is stored and counted, and answered with an error. -/
theorem not_harmless_nanMask :
    ((RMCDispatcher.respond Sample.env .auth 0 nanMask).run online).1 =
        .ok (RMCDispatcher.failed nanMask 0x80020001) ∧
      online.db.tables.careerStats.get? 10000 = none ∧
      (((RMCDispatcher.respond Sample.env .auth 0 nanMask).after online).db.tables.careerStats.get?
        10000).isSome = true ∧
      ((RMCDispatcher.respond Sample.env .auth 0 nanMask).after online).statsTxnId.get? 10000 =
        some 1 ∧
      ¬ Harmless Sample.env .auth 0 nanMask online := by
  have hfail : ((RMCDispatcher.respond Sample.env .auth 0 nanMask).run online).1 =
      .ok (RMCDispatcher.failed nanMask 0x80020001) := by
    decide +kernel
  have hcount : ((RMCDispatcher.respond Sample.env .auth 0 nanMask).after online).statsTxnId.get?
      10000 = some 1 := by
    decide +kernel
  refine ⟨hfail, rfl, by decide +kernel, hcount, fun h => ?_⟩
  have htxns := (h _ _ (Prod.ext hfail rfl)).txns
  change ((RMCDispatcher.respond Sample.env .auth 0 nanMask).after online).statsTxnId = _ at htxns
  rw [htxns] at hcount
  cases hcount

/-- The map id of the first mode block is no number. -/
def nanMap : Request := upload [0] (List.replicate 9 0 ++ [nan] ++ List.replicate 21 0)

/-- It is answered with an error as well, before anything is stored. -/
theorem harmless_nanMap :
    ((RMCDispatcher.respond Sample.env .auth 0 nanMap).run online).1 =
        .ok (RMCDispatcher.failed nanMap 0x80020001) ∧
      Harmless Sample.env .auth 0 nanMap online := by
  have hfail : ((RMCDispatcher.respond Sample.env .auth 0 nanMap).run online).1 =
      .ok (RMCDispatcher.failed nanMap 0x80020001) := by
    decide +kernel
  have hrefused : ¬ Game.Accepted Sample.env 10000 nanMap.params online.db := by
    decide +kernel
  refine ⟨hfail, ?_⟩
  exact (harmless_iff Sample.env GatheringRegistry.WellIndexed.empty .auth 0 rfl rfl).mpr
    fun _ h => absurd h hrefused

end Failure
end Ghostbusters
