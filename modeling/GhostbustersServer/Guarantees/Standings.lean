import GhostbustersServer.Effects.Answers
import GhostbustersServer.Guarantees.Integrity
import GhostbustersServer.Guarantees.Leaderboards

/-!
# A leaderboard shows what was uploaded

The observer of the uploads stands beside the server.  Behind any run, a page of a
leaderboard is one of the ranking of the uploads: each player's latest row for the category.

    Standing ups cat rows    the ranking of the uploads
    Lists e s                the m7 or m17 reply to `e` shows the page of it that was asked for,
                             with the name and the rank of each player
    standings_served         every step of every run lists
-/

namespace Ghostbusters
namespace Standings

open Py Act PRUDPServer Store Leaderboard Integrity

/-- Who has cash above 0 in the latest row for the category, once each, by cash descending. -/
structure Standing (ups : List Upload) (cat : Nat) (rows : List (Nat × LeaderboardRow)) : Prop where
  mem : ∀ pid row, (pid, row) ∈ rows ↔
    (board (Store.own ups pid) cat).bind stored = some row ∧ F32.isPositive row.cash = true
  once : (rows.map (·.1)).Nodup
  sorted : rows.Pairwise fun a b => F32.units b.2.cash ≤ F32.units a.2.cash

/-- The entry of a line: the name of the account, the rank of the latest career, and the
numbers of the row under its place. -/
def Line.Written (accounts : Dict Nat Str) (ups : List Upload) (l : Line) (enc : Bytes) : Prop :=
  ∃ name, accounts.get? l.1.1 = some name ∧
    enc = Game.sparkstatsEntry l.1.1
      (fun i => if i = 19 then (career (Store.own ups l.1.1)).getD 4 0 else 0)
      (fun i => if i = 0 then F32.ofInt l.2 else if i = 5 then l.1.2.cash
        else if i = 6 then l.1.2.modeStat else if i = 7 then F32.ofInt l.1.2.mapId else 0)
      l.2 1 name

variable (env : Env)

/-- **The property of one event.** -/
def Lists (e : Event) (s : World × List Upload) : Prop :=
  ∀ port c req, requestOf env s.1 e = some (port, c, req) → req.proto = 60 →
    req.method = Game.methodLeaderboardSelf ∨ req.method = Game.methodLeaderboardGlobal →
    ∃ rows encs, Standing s.2 (Game.paramU32 req.params 0) rows ∧
      List.Forall₂ (Line.Written s.1.db.tables.accounts s.2)
        (lines (pageOf rows (s.1.heap c).userPid req)) encs ∧
      (step env e s.1).answer = some (Game.ok req (wU32 encs.length ++ encs.flatten))

/-! ## The ranking -/

theorem standing_ranking {S : Stats} {ups : List Upload} (hm : Matches S ups) (cat : Nat) :
    Standing ups cat (Career.ranking S.2 cat) where
  mem := fun pid row => by
    rw [Career.mem_ranking, hm.board]
  once := Career.ranking_once
  sorted := Career.ranking_sorted

/-! ## Reading -/

section
variable {env} (hr : ∀ n, env.readFails n = false) {t : Tables} {heap : ConnId → Connection}
include hr

/-- A query that is not refused. -/
theorem read_steady : Triple (fun d : Db => d.tables = t) (Db.read env)
    (fun u d => u = t ∧ d.tables = t) fun _ => False := by
  intro d hd
  unfold Db.read
  rw [run_get_bind, run_modify_bind, if_neg (by rw [hr]; exact Bool.false_ne_true)]
  exact .inl ⟨_, _, rfl, hd, hd⟩

theorem dbCon_steady : Triple (fun d : Db => d.tables = t) (Db.dbCon env)
    (fun _ d => d.tables = t) fun _ => False := by
  refine Triple.get_bind fun d hd => ?_
  split
  · exact Triple.pure fun _ h => h ▸ hd
  · refine Triple.bind (Q := fun _ d => d.tables = t) ?_ fun _ => Triple.modify fun _ h => h
    refine ((Triple.bind (read_steady hr) fun u => Triple.pure fun _ h => h.2).mono
      (fun _ h => h ▸ hd) (fun _ _ h => h) fun _ h => h)

/-- Nothing but the database is used. -/
def Seen (t : Tables) (heap : ConnId → Connection) (w : World) : Prop := w.db.tables = t ∧ w.heap = heap

omit hr in
theorem useDb_seen {α : Type} {Q : α → Prop} {m : Act Db Exc α}
    (hm : Triple (fun d : Db => d.tables = t) m (fun a d => Q a ∧ d.tables = t) fun _ => False) :
    Triple (Seen t heap) (Srv.useDb m) (fun a w => Q a ∧ Seen t heap w) fun _ => False :=
  Triple.zoom hm (fun _ hw => hw.1) (fun _ _ _ hw h => ⟨h.1, h.2, hw.2⟩) fun _ _ _ h => h

/-- The career of a player, or the default one. -/
def careerOf (t : Tables) (pid : Nat) : List F32 :=
  ((t.careerStats.get? pid).map Career.unpackVec0).getD Game.defaultCareerVec0

theorem getCareerVec0_seen (pid : Nat) :
    Triple (Seen t heap) (Game.getCareerVec0 env pid)
      (fun v w => v = careerOf t pid ∧ Seen t heap w) fun _ => False := by
  have hread : Triple (fun d : Db => d.tables = t) (do
        Db.dbCon env
        Career.getCareer env pid)
      (fun v d => v = (t.careerStats.get? pid).map Career.unpackVec0 ∧ d.tables = t)
      fun _ => False := by
    refine Triple.bind (dbCon_steady hr) fun _ => Triple.bind (read_steady hr) fun u => Triple.pure ?_
    rintro d ⟨rfl, hd⟩
    exact ⟨rfl, hd⟩
  refine Triple.bind (useDb_seen hread).attempt fun r => Triple.pure ?_
  intro w hw
  cases r with
  | error e => exact hw.elim
  | ok v =>
    obtain ⟨rfl, hw⟩ := hw
    refine ⟨?_, hw⟩
    unfold careerOf
    cases t.careerStats.get? pid <;> rfl

variable {ups : List Upload}

theorem leaderboardEntry_seen (l : Line) {name : Str} (hname : t.accounts.get? l.1.1 = some name)
    (hcareer : careerOf t l.1.1 = career (Store.own ups l.1.1)) :
    Triple (Seen t heap) (Game.leaderboardEntry env l.2 l.1)
      (fun enc w => Line.Written t.accounts ups l enc ∧ Seen t heap w) fun _ => False := by
  have hread : Triple (fun d : Db => d.tables = t) (nameForPid env l.1.1)
      (fun s d => s = name ∧ d.tables = t) fun _ => False := by
    refine Triple.bind (read_steady hr) fun u => Triple.pure ?_
    rintro d ⟨rfl, hd⟩
    rw [hname]
    exact ⟨rfl, hd⟩
  have hrank : Game.index (careerOf t l.1.1) 4 = .ok ((career (Store.own ups l.1.1)).getD 4 0) := by
    have hlen := career_length (Store.own ups l.1.1)
    rw [hcareer]
    unfold Game.index
    rw [List.getD_eq_getElem?_getD, List.getElem?_eq_getElem (by omega)]
    rfl
  refine Triple.bind (useDb_seen hread) fun s => Triple.assume ?_
  rintro rfl
  refine Triple.bind (getCareerVec0_seen hr l.1.1) fun v => Triple.assume ?_
  rintro rfl
  refine Triple.bind (Q := fun r w => r = (career (Store.own ups l.1.1)).getD 4 0 ∧ Seen t heap w)
    (Triple.ofExcept_ok hrank fun _ hw => ⟨rfl, hw⟩) fun r => Triple.pure ?_
  rintro w ⟨rfl, hw⟩
  exact ⟨⟨s, hname, rfl⟩, hw⟩

/-- **The page of a query.** -/
theorem leaderboardQuery_seen (c : ConnId) (req : Request)
    (hrow : ∀ row ∈ Career.ranking t.leaderboardStats (Game.paramU32 req.params 0),
      (t.accounts.get? row.1).isSome ∧ careerOf t row.1 = career (Store.own ups row.1)) :
    Triple (Seen t heap) (Game.leaderboardQuery env c req)
      (fun m _ => ∃ encs, List.Forall₂ (Line.Written t.accounts ups)
          (lines (pageOf (Career.ranking t.leaderboardStats (Game.paramU32 req.params 0))
            (heap c).userPid req)) encs ∧
        m = Game.ok req (wU32 encs.length ++ encs.flatten)) fun _ => False := by
  have hquery : Triple (fun d : Db => d.tables = t) (do
        Db.dbCon env
        Career.rankedForCategory env (Game.paramU32 req.params 0))
      (fun rows d => rows = Career.ranking t.leaderboardStats (Game.paramU32 req.params 0) ∧ d.tables = t)
      fun _ => False := by
    refine Triple.bind (dbCon_steady hr) fun _ => Triple.bind (read_steady hr) fun u => Triple.pure ?_
    rintro d ⟨rfl, hd⟩
    exact ⟨rfl, hd⟩
  have hcon : Triple (fun d : Db => d.tables = t) (Db.dbCon env) (fun _ d => True ∧ d.tables = t)
      fun _ => False := (dbCon_steady hr).mono (fun _ h => h) (fun _ _ h => ⟨trivial, h⟩) fun _ h => h
  refine Triple.bind (useDb_seen hquery).attempt fun r => ?_
  cases r with
  | error e => exact fun _ h => h.elim
  | ok rows =>
    refine Triple.assume ?_
    rintro rfl
    generalize Career.ranking t.leaderboardStats (Game.paramU32 req.params 0) = rows at hrow
    have hsub : ∀ row ∈ (pageOf rows (heap c).userPid req).1, row ∈ rows := by
      intro row hin
      obtain ⟨start, n, -, hpage⟩ := leaderboardPage_window rows (heap c).userPid
        (Game.paramU32 req.params 4) (Game.paramU32 req.params 8)
        (req.method == Game.methodLeaderboardSelf)
      unfold pageOf at hin
      rw [hpage] at hin
      exact (window_within rows start n).mem hin
    refine Triple.bind (Q := fun conn w => conn = heap c ∧ Seen t heap w) ?_ fun conn => ?_
    · intro w hw
      exact .inl ⟨w.heap c, w, rfl, congrFun hw.2 c, hw⟩
    refine Triple.assume ?_
    rintro rfl
    unfold pageOf at hsub ⊢
    generalize Game.leaderboardPage rows (heap c).userPid (Game.paramU32 req.params 4)
      (Game.paramU32 req.params 8) (req.method == Game.methodLeaderboardSelf) = out at hsub ⊢
    obtain ⟨page, start⟩ := out
    refine Triple.bind (useDb_seen hcon) fun _ => ?_
    have hlines : lines (page, start) = page.zipIdx.map fun x => (x.1, start + x.2 + 1) := by
      unfold lines numbered
      rw [List.zipIdx_eq_map_add]
      exact List.map_congr_left fun x _ => Prod.ext rfl (Nat.add_right_comm start 1 x.2)
    refine Triple.bind (Q := fun encs _ => List.Forall₂ (Line.Written t.accounts ups)
      (lines (page, start)) encs) ?_ fun encs => Triple.pure fun w hencs => ⟨encs, hencs, ?_⟩
    · refine (Triple.mapEach (P := Seen t heap)
        (R := fun x enc => Line.Written t.accounts ups (x.1, start + x.2 + 1) enc) page.zipIdx
        fun x hx => ?_).mono (fun _ h => h.2) (fun encs _ h => ?_) fun _ h => h
      · obtain ⟨hacc, hcareer⟩ := hrow x.1 (hsub x.1 (List.fst_mem_of_mem_zipIdx hx))
        obtain ⟨name, hname⟩ := Option.isSome_iff_exists.mp hacc
        exact leaderboardEntry_seen hr (x.1, start + x.2 + 1) hname hcareer
      · rw [hlines, List.forall₂_map_left_iff]
        exact h.1
    · have hlen : (lines (page, start)).length = page.length := List.length_zipIdx
      rw [← hencs.length_eq, hlen]

end

/-! ## Every run -/

/-- The database of a run, and its uploads. -/
structure Known (w : World) (ups : List Upload) : Prop where
  held : ∃ names, Held names w.db
  uploads : ∃ S, w.db.Holds S ∧ Matches S ups

theorem step_known (e : Event) {w : World} {ups : List Upload} (h : Known w ups) :
    Known (step env e w) (ups ++ uploaded env e w) := by
  obtain ⟨⟨names, hheld⟩, S, hS, hm⟩ := h
  obtain ⟨names', hheld', -, -⟩ := step_lasting env e w names hheld
  exact ⟨⟨names', hheld'⟩, step_matches env e hS hm⟩

theorem step_lists (hr : ∀ n, env.readFails n = false) (e : Event) {w : World} {ups : List Upload}
    (h : Known w ups) : Lists env e (w, ups) := by
  intro port c req hreq h1 h2
  obtain ⟨⟨names, hheld⟩, S, hS, hm⟩ := h
  have hh : RMCDispatcher.handlerFor env req = some fun _ c r => Game.leaderboardQuery env c r := by
    rcases h2 with h2 | h2
    · exact RMCDispatcher.handlerFor_eq env h1 h2 rfl
    · exact RMCDispatcher.handlerFor_eq env h1 h2 rfl
  obtain ⟨body, w1, hrec, hanswer⟩ := step_answer env hreq hh
  have hranks : w.db.tables.leaderboardStats = S.2 := congrArg Prod.snd hS.1
  have hcareers : w.db.tables.careerStats = S.1 := congrArg Prod.fst hS.1
  have hrow : ∀ row ∈ Career.ranking w.db.tables.leaderboardStats (Game.paramU32 req.params 0),
      (w.db.tables.accounts.get? row.1).isSome ∧
        careerOf w.db.tables row.1 = career (Store.own ups row.1) := by
    intro row hrow
    obtain ⟨hget, -⟩ := (Career.mem_ranking row.1 row.2).mp hrow
    obtain ⟨hcareer, -, -⟩ := hheld.intact.ranks row.1 _ row.2 hget
    obtain ⟨blob, hblob⟩ := Option.isSome_iff_exists.mp hcareer
    refine ⟨(hheld.intact.careers row.1 blob hblob).1, ?_⟩
    rw [← hm.career_eq row.1]
    unfold careerOf Stats.career
    rw [hcareers]
    cases S.1.get? row.1 <;> rfl
  have hstart : Seen w.db.tables w1.heap (w1.logged (.onPayload port c body)) :=
    ⟨congrArg Db.tables hrec.db, rfl⟩
  rcases leaderboardQuery_seen hr c req hrow _ hstart with ⟨m, w2, hrun, encs, hencs, rfl⟩ | ⟨_, _, _, hF⟩
  · rw [hrun] at hanswer
    rw [hrec.userPid] at hencs
    rw [hranks] at hencs
    exact ⟨_, encs, standing_ranking hm _, hencs, hanswer⟩
  · exact hF.elim

/-- **Upload and look**: over every run from the migrated database, with queries that are not
refused, every page of a leaderboard that is asked for is one of the ranking of what the
players have uploaded by then, each under the name of its account. -/
theorem standings_served (hr : ∀ n, env.readFails n = false) (w : World) (hw : w.db = Db.migrated)
    (es : List Event) : Guarded (track env) (Lists env) es (w, []) := by
  refine guarded_of_preserved (I := fun s => Known s.1 s.2) ?_ ?_ es (w, []) ⟨?_, ?_⟩
  · rintro e ⟨w, ups⟩ h
    exact step_known env e h
  · rintro e ⟨w, ups⟩ h
    exact step_lists env hr e h
  · exact ⟨[], hw ▸ held_migrated⟩
  · refine ⟨_, ?_, matches_nil⟩
    rw [hw]
    exact ⟨rfl, fun _ ht => by cases ht⟩

/-- A player gets an account, uploads, and looks at the board. -/
def look : List Event :=
  Store.session.take 2 ++
    [.packet .secure (Sample.remote 1) (Sample.data 2 60 17 (wU32 201 ++ wU32 0 ++ wU32 10))]

theorem standings_served_look : Guarded (track Sample.env) (Lists Sample.env) look (Store.player, []) ∧
    (runs (track Sample.env) look (Store.player, [])).2 = [{ pid := 10000, params := Store.campaign }] :=
  ⟨standings_served Sample.env (fun _ => rfl) Store.player rfl look, by decide +kernel⟩

end Standings
end Ghostbusters
