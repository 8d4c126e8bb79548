import GhostbustersServer.Effects.Stats
import GhostbustersServer.Guarantees.Sample
import GhostbustersServer.Py.Pages

/-!
# The numbers on a leaderboard are absolute

    Career.ranking           the rows of a category with cash above 0, by cash descending
    leaderboardPage_window   a page is a window of the ranking
    Shows                    the answer has these rows, each under this number
    leaderboard_ranks        and the numbers are those of the whole ranking
    aroundSelf_iff           the page around a player has the player in it, unless cut short
-/

namespace Ghostbusters

open Py Act

/-! ## The ranking -/

namespace Career

def ranking (board : Dict (Nat × Nat) LeaderboardRow) (category : Nat) : List (Nat × LeaderboardRow) :=
  ((board.entries.filter fun e => decide (e.1.2 = category) && F32.isPositive e.2.cash).map
    fun e => (e.1.1, e.2)).mergeSort fun a b => decide (b.2.cash.toNat ≤ a.2.cash.toNat)

theorem rankedForCategory_eq (env : Env) (category : Nat) :
    rankedForCategory env category = (do
      let t ← Db.read env
      return ranking t.leaderboardStats category) := rfl

/-- The rows of a category with cash above 0, once for each player, by cash descending. -/
structure Ranks (board : Dict (Nat × Nat) LeaderboardRow) (category : Nat)
    (rows : List (Nat × LeaderboardRow)) : Prop where
  mem : ∀ pid row, (pid, row) ∈ rows ↔
    board.get? (pid, category) = some row ∧ F32.isPositive row.cash = true
  once : (rows.map (·.1)).Nodup
  sorted : rows.Pairwise fun a b => F32.units b.2.cash ≤ F32.units a.2.cash

variable {board : Dict (Nat × Nat) LeaderboardRow} {category : Nat}

theorem mem_ranking (pid : Nat) (row : LeaderboardRow) : (pid, row) ∈ ranking board category ↔
    board.get? (pid, category) = some row ∧ F32.isPositive row.cash = true := by
  unfold ranking
  rw [List.mem_mergeSort, List.mem_map, Dict.get?_eq_some_iff]
  constructor
  · rintro ⟨⟨⟨pid', cat'⟩, row'⟩, he, heq⟩
    obtain ⟨hmem, hsel⟩ := List.mem_filter.mp he
    rw [Bool.and_eq_true, decide_eq_true_eq] at hsel
    obtain ⟨rfl, hpos⟩ := hsel
    cases heq
    exact ⟨hmem, hpos⟩
  · rintro ⟨hmem, hpos⟩
    refine ⟨((pid, category), row), List.mem_filter.mpr ⟨hmem, ?_⟩, rfl⟩
    rw [hpos, Bool.and_true]
    exact decide_eq_true rfl

theorem ranking_once : ((ranking board category).map (·.1)).Nodup := by
  have hperm := (List.mergeSort_perm ((board.entries.filter fun e =>
    decide (e.1.2 = category) && F32.isPositive e.2.cash).map fun e => (e.1.1, e.2))
    fun a b => decide (b.2.cash.toNat ≤ a.2.cash.toNat)).map (·.1)
  refine hperm.nodup_iff.mpr ?_
  rw [List.map_map]
  -- two rows of one player and one category have the same key
  have hkeys := (board.nodup.sublist (List.filter_sublist.map Prod.fst) :
    ((board.entries.filter fun e => decide (e.1.2 = category) && F32.isPositive e.2.cash).map
      Prod.fst).Nodup)
  rw [List.nodup_iff_pairwise_ne, List.pairwise_map] at hkeys ⊢
  refine hkeys.imp_of_mem fun {a b} ha hb hne heq => hne ?_
  have hcat : ∀ e ∈ board.entries.filter (fun e =>
      decide (e.1.2 = category) && F32.isPositive e.2.cash), e.1.2 = category := by
    intro e he
    have hsel := (List.mem_filter.mp he).2
    rw [Bool.and_eq_true, decide_eq_true_eq] at hsel
    exact hsel.1
  exact Prod.ext heq ((hcat a ha).trans (hcat b hb).symm)

theorem ranking_sorted :
    (ranking board category).Pairwise fun a b => F32.units b.2.cash ≤ F32.units a.2.cash := by
  have hbits := @List.pairwise_mergeSort (Nat × LeaderboardRow)
    (fun a b => decide (b.2.cash.toNat ≤ a.2.cash.toNat))
    (fun a b c hab hbc => by
      rw [decide_eq_true_eq] at *
      omega)
    (fun a b => by
      rw [Bool.or_eq_true, decide_eq_true_eq, decide_eq_true_eq]
      omega)
    ((board.entries.filter fun e => decide (e.1.2 = category) && F32.isPositive e.2.cash).map
      fun e => (e.1.1, e.2))
  refine List.Pairwise.imp_of_mem ?_ (show (ranking board category).Pairwise _ from hbits)
  intro a b ha hb hle
  have hsign : ∀ x ∈ ranking board category, F32.negative x.2.cash = false := by
    intro x hx
    have hpos := ((mem_ranking x.1 x.2).mp hx).2
    unfold F32.isPositive at hpos
    simp only [Bool.and_eq_true, Bool.not_eq_true'] at hpos
    exact hpos.1.1
  exact (F32.toNat_le_iff_units (hsign b hb) (hsign a ha)).mp (of_decide_eq_true hle)

theorem ranking_ranks : Ranks board category (ranking board category) :=
  ⟨mem_ranking, ranking_once, ranking_sorted⟩

end Career

/-! ## Pages -/

namespace Leaderboard

open Game (leaderboardPage aroundselfLead aroundselfTrail)

/-- A row and the number it is shown under. -/
abbrev Line : Type := (Nat × LeaderboardRow) × Nat

/-- The rows of a page, numbered as the query numbers them. -/
def lines (page : List (Nat × LeaderboardRow) × Nat) : List Line := numbered page.1 page.2

/-- The row a page is built around, counted from 0: the player's, or the first. -/
def centre (ranked : List (Nat × LeaderboardRow)) (pid : Nat) : Nat :=
  (ranked.findIdx? fun r => r.1 == pid).getD 0

theorem leaderboardPage_self {ranked : List (Nat × LeaderboardRow)} (hne : ranked ≠ [])
    (pid offset count : Nat) :
    leaderboardPage ranked pid offset count true =
      (window ranked (centre ranked pid - aroundselfLead) (min count
        (centre ranked pid + 1 + aroundselfTrail - (centre ranked pid - aroundselfLead))),
        centre ranked pid - aroundselfLead) := by
  unfold leaderboardPage
  rw [if_neg hne, if_pos rfl, ← take_window]
  rfl

/-- **A page is a window** of the ranking, in both views. -/
theorem leaderboardPage_window (ranked : List (Nat × LeaderboardRow)) (pid offset count : Nat)
    (aroundSelf : Bool) : ∃ start n, n ≤ count ∧
      leaderboardPage ranked pid offset count aroundSelf = (window ranked start n, start) := by
  by_cases hnil : ranked = []
  · subst hnil
    exact ⟨0, 0, Nat.zero_le _, rfl⟩
  · cases aroundSelf with
    | true => exact ⟨_, _, Nat.min_le_left _ _, leaderboardPage_self hnil pid offset count⟩
    | false => exact ⟨offset, count, Nat.le_refl _, if_neg hnil⟩

/-- What a page has of a ranking: some rows in a row, each once, under its place in all of it. -/
structure Absolute (ranked : List (Nat × LeaderboardRow)) (count : Nat) (ls : List Line) : Prop where
  run : ls.map Prod.fst <:+: ranked
  atMost : ls.length ≤ count
  once : (ls.map (·.1.1)).Nodup
  place : ∀ row k, (row, k) ∈ ls → ∃ before after, ranked = before ++ row :: after ∧
    k = before.length + 1
  above : ∀ row k, (row, k) ∈ ls →
    ranked.countP (fun r => decide (F32.units row.2.cash < F32.units r.2.cash)) < k
  /-- the # column is a float, and the txn has 32 bits -/
  exact : ∀ row k, (row, k) ∈ ls → k ≤ 2 ^ 24 →
    F32.trunc (F32.ofInt k) = some (k : Int) ∧ ofLE (wU32 k) = k

theorem absolute_window {board : Dict (Nat × Nat) LeaderboardRow} {category : Nat}
    {ranked : List (Nat × LeaderboardRow)} (hr : Career.Ranks board category ranked)
    {start n count : Nat} (hn : n ≤ count) :
    Absolute ranked count (lines (window ranked start n, start)) := by
  have hfst : (lines (window ranked start n, start)).map Prod.fst = window ranked start n :=
    List.zipIdx_map_fst _ _
  refine ⟨?_, ?_, ?_, fun row k h => numbered_window h, fun row k h => ?_, fun row k h hk => ?_⟩
  · rw [hfst]
    exact window_within ranked start n
  · rw [← List.length_map Prod.fst, hfst]
    exact (length_window_le ranked start n).trans hn
  · rw [show (fun l : Line => l.1.1) = (·.1) ∘ Prod.fst from rfl, ← List.map_map, hfst]
    exact hr.once.sublist ((window_within ranked start n).sublist.map (·.1))
  · obtain ⟨before, after, hranked, rfl⟩ := numbered_window h
    exact @countP_before_lt _ (fun r : Nat × LeaderboardRow => F32.units r.2.cash) ranked before after
      row hr.sorted hranked
  · exact ⟨F32.trunc_ofInt_of_le k hk, ofLE_wU32 k (by omega)⟩

/-! ## The answer -/

/-- The entry of a row: the number is its txn and its # column. -/
def Entry (l : Line) (enc : Bytes) : Prop :=
  ∃ rank name, enc = Game.sparkstatsEntry l.1.1 (fun i => if i = 19 then rank else 0)
    (fun i => if i = 0 then F32.ofInt l.2 else if i = 5 then l.1.2.cash
      else if i = 6 then l.1.2.modeStat else if i = 7 then F32.ofInt l.1.2.mapId else 0)
    l.2 1 name

/-- The answer has these lines, in order. -/
def Shows (req : Request) (m : Message) (ls : List Line) : Prop :=
  ∃ encs, m = Game.ok req (wU32 ls.length ++ encs.flatten) ∧ List.Forall₂ Entry ls encs

section
variable (env : Env) {S : Stats} {heap : ConnId → Connection}

/-- Nothing but the database is used. -/
def Reading (S : Stats) (heap : ConnId → Connection) (w : World) : Prop :=
  w.db.Holds S ∧ w.heap = heap

theorem useDb_reading {α : Type} {Q : α → Prop} {F : Prop} {m : Act Db Exc α}
    (hm : Triple (fun d : Db => d.Holds S) m (fun a d => Q a ∧ d.Holds S) fun d => F ∧ d.Holds S) :
    Triple (Reading S heap) (Srv.useDb m) (fun a w => Q a ∧ Reading S heap w)
      fun w => F ∧ Reading S heap w :=
  Triple.zoom hm (fun _ hw => hw.1) (fun _ _ _ hw h => ⟨h.1, h.2, hw.2⟩)
    fun _ _ hw h => ⟨h.1, h.2, hw.2⟩

theorem rankedForCategory_triple (category : Nat) :
    Triple (fun d : Db => d.Holds S) (do
        Db.dbCon env
        Career.rankedForCategory env category)
      (fun rows d => rows = Career.ranking S.2 category ∧ d.Holds S)
      fun d => Flaky env ∧ d.Holds S := by
  refine Triple.bind (Db.dbCon_triple env) fun _ => ?_
  rw [Career.rankedForCategory_eq]
  refine Triple.bind (Db.read_triple env) fun t => Triple.pure ?_
  rintro d ⟨rfl, hd⟩
  exact ⟨rfl, hd⟩

/-- A career that cannot be read is the default one. -/
theorem getCareerVec0_reading (pid : Nat) :
    Triple (Reading S heap) (Game.getCareerVec0 env pid)
      (fun v w => (v = S.career pid ∨ v = Game.defaultCareerVec0) ∧ Reading S heap w)
      fun _ => False := by
  have hread : Triple (fun d : Db => d.Holds S) (do
        Db.dbCon env
        Career.getCareer env pid)
      (fun v d => v = (S.1.get? pid).map Career.unpackVec0 ∧ d.Holds S)
      fun d => Flaky env ∧ d.Holds S := by
    refine Triple.bind (Db.dbCon_triple env) fun _ => ?_
    refine Triple.bind (Db.read_triple env) fun t => Triple.pure ?_
    rintro d ⟨rfl, hd⟩
    exact ⟨rfl, hd⟩
  refine Triple.bind (useDb_reading hread).attempt fun r => Triple.pure ?_
  intro w hw
  cases r with
  | error e => exact ⟨.inr rfl, hw.2⟩
  | ok v =>
    obtain ⟨rfl, hw⟩ := hw
    refine ⟨.inl ?_, hw⟩
    unfold Stats.career
    cases S.1.get? pid <;> rfl

/-- A line of the answer, which fails with the name's query or on a career of fewer than
five slots. -/
theorem leaderboardEntry_triple (l : Line) :
    Triple (Reading S heap) (Game.leaderboardEntry env l.2 l.1)
      (fun enc w => Entry l enc ∧ Reading S heap w)
      fun _ => Flaky env ∨ (S.career l.1.1).length < 5 := by
  have hname : Triple (fun d : Db => d.Holds S) (nameForPid env l.1.1)
      (fun _ d => True ∧ d.Holds S) fun d => Flaky env ∧ d.Holds S :=
    Triple.bind (Db.read_triple env) fun t => Triple.pure fun d hd => ⟨trivial, hd.2⟩
  refine Triple.bind ((useDb_reading hname).mono (fun _ h => h) (fun _ _ h => h)
    fun _ h => .inl h.1) fun name => ?_
  refine Triple.bind (Q := fun v w => (v = S.career l.1.1 ∨ v = Game.defaultCareerVec0) ∧
    Reading S heap w) ((getCareerVec0_reading env l.1.1).mono (fun _ h => h.2) (fun _ _ h => h)
    fun _ h => h.elim) fun v => Triple.assume fun hv => ?_
  cases hrank : Game.index v 4 with
  | ok rank =>
    refine Triple.bind (Q := fun r w => r = rank ∧ Reading S heap w)
      (Triple.ofExcept_ok rfl fun _ hw => ⟨rfl, hw⟩) fun r => Triple.pure ?_
    rintro w ⟨rfl, hw⟩
    exact ⟨⟨r, name, rfl⟩, hw⟩
  | error e =>
    intro w _
    refine .inr ⟨e, w, rfl, .inr ?_⟩
    rcases hv with rfl | rfl
    · unfold Game.index at hrank
      split at hrank
      · cases hrank
      · next hnone => exact Nat.lt_succ_of_le (List.getElem?_eq_none_iff.mp hnone)
    · cases hrank

/-- The page of a request. -/
def pageOf (ranked : List (Nat × LeaderboardRow)) (pid : Nat) (req : Request) :
    List (Nat × LeaderboardRow) × Nat :=
  leaderboardPage ranked pid (Game.paramU32 req.params 4) (Game.paramU32 req.params 8)
    (req.method == Game.methodLeaderboardSelf)

/-- What the query does with the ranking it has. -/
theorem showPage_triple (ranked : List (Nat × LeaderboardRow)) (c : ConnId) (req : Request) :
    Triple (Reading S heap) (do
        let conn ← Srv.conn c
        let (page, start) := pageOf ranked conn.userPid req
        Srv.useDb (Db.dbCon env)
        let entries ← Act.mapEach page.zipIdx fun (row, j) =>
          Game.leaderboardEntry env (start + j + 1) row
        return Game.ok req (wU32 page.length ++ entries.flatten))
      (fun m _ => Shows req m (lines (pageOf ranked (heap c).userPid req)))
      fun _ => Flaky env ∨ ∃ row ∈ ranked, (S.career row.1).length < 5 := by
  have hsub : ∀ row ∈ (pageOf ranked (heap c).userPid req).1, row ∈ ranked := by
    intro row hrow
    obtain ⟨start, n, -, hpage⟩ := leaderboardPage_window ranked (heap c).userPid
      (Game.paramU32 req.params 4) (Game.paramU32 req.params 8)
      (req.method == Game.methodLeaderboardSelf)
    unfold pageOf at hrow
    rw [hpage] at hrow
    exact (window_within ranked start n).mem hrow
  refine Triple.bind (Q := fun conn w => conn = heap c ∧ Reading S heap w) ?_ fun conn => ?_
  · intro w hw
    exact .inl ⟨w.heap c, w, rfl, congrFun hw.2 c, hw⟩
  refine Triple.assume ?_
  rintro rfl
  generalize pageOf ranked (heap c).userPid req = out at hsub
  obtain ⟨page, start⟩ := out
  have hcon : Triple (fun d : Db => d.Holds S) (Db.dbCon env) (fun _ d => True ∧ d.Holds S)
      fun d => Flaky env ∧ d.Holds S :=
    (Db.dbCon_triple env).mono (fun _ h => h) (fun _ _ h => ⟨trivial, h⟩) fun _ h => h
  refine Triple.bind ((useDb_reading hcon).mono (fun _ h => h) (fun _ _ h => h)
    fun _ h => .inl h.1) fun _ => ?_
  refine Triple.bind (Q := fun encs _ => List.Forall₂ Entry (lines (page, start)) encs) ?_
    fun encs => Triple.pure fun w hencs => ?_
  · have hlines : lines (page, start) = page.zipIdx.map fun x => (x.1, start + x.2 + 1) := by
      unfold lines numbered
      rw [List.zipIdx_eq_map_add]
      exact List.map_congr_left fun x _ => Prod.ext rfl (Nat.add_right_comm start 1 x.2)
    refine (Triple.mapEach (P := Reading S heap)
      (R := fun x enc => Entry (x.1, start + x.2 + 1) enc) page.zipIdx fun x hx => ?_).mono
      (fun _ h => h.2) (fun encs _ h => ?_) fun _ h => h
    · have hrow := hsub x.1 (List.fst_mem_of_mem_zipIdx hx)
      exact (leaderboardEntry_triple env (x.1, start + x.2 + 1)).mono (fun _ h => h)
        (fun _ _ h => h) fun _ h => h.imp_right fun hshort => ⟨x.1, hrow, hshort⟩
    · rw [hlines, List.forall₂_map_left_iff]
      exact h.1
  · refine ⟨encs, ?_, hencs⟩
    have hlen : (lines (page, start)).length = page.length := List.length_zipIdx
    rw [hlen]

/-- **The answer shows a page** of the ranking, or of nothing where it cannot be read. -/
theorem leaderboardQuery_triple (c : ConnId) (req : Request) :
    Triple (Reading S heap) (Game.leaderboardQuery env c req)
      (fun m _ => ∃ ranked, (ranked = Career.ranking S.2 (Game.paramU32 req.params 0) ∨
          Flaky env ∧ ranked = []) ∧ Shows req m (lines (pageOf ranked (heap c).userPid req)))
      fun _ => Flaky env ∨ ∃ row ∈ Career.ranking S.2 (Game.paramU32 req.params 0),
        (S.career row.1).length < 5 := by
  refine Triple.bind (useDb_reading (rankedForCategory_triple env _)).attempt fun r => ?_
  cases r with
  | ok rows =>
    refine Triple.assume fun hrows => ?_
    refine (showPage_triple env rows c req).mono (fun _ h => h)
      (fun m _ h => ⟨rows, .inl hrows, h⟩) fun _ h => ?_
    rwa [← hrows]
  | error e =>
    refine Triple.assume fun hflaky => ?_
    exact (showPage_triple env [] c req).mono (fun _ h => h)
      (fun m _ h => ⟨[], .inr ⟨hflaky, rfl⟩, h⟩) fun _ _ => .inl hflaky

/-- **The numbers are absolute.**  Whatever the tables hold, an answer shows rows that stand
side by side in the ranking of the category, each under its place in all of it; the pages of
the Global view side by side are the ranking, numbered from 1. -/
theorem leaderboard_ranks {w : World} (hS : w.db.Holds S) (c : ConnId) (req : Request) :
    Career.Ranks S.2 (Game.paramU32 req.params 0)
        (Career.ranking S.2 (Game.paramU32 req.params 0)) ∧
      (∀ m w', (Game.leaderboardQuery env c req).run w = (.ok m, w') → ∃ ls, Shows req m ls ∧
        Absolute (Career.ranking S.2 (Game.paramU32 req.params 0)) (Game.paramU32 req.params 8) ls ∧
        (¬ Flaky env → ls = lines (pageOf (Career.ranking S.2 (Game.paramU32 req.params 0))
          (w.heap c).userPid req))) ∧
      (¬ Flaky env → (∀ row ∈ Career.ranking S.2 (Game.paramU32 req.params 0),
          5 ≤ (S.career row.1).length) →
        ∃ m w', (Game.leaderboardQuery env c req).run w = (.ok m, w')) ∧
      ∀ pid count n, (Career.ranking S.2 (Game.paramU32 req.params 0)).length ≤ n * count →
        ((List.range n).flatMap fun k => lines (leaderboardPage
          (Career.ranking S.2 (Game.paramU32 req.params 0)) pid (k * count) count false)) =
            numbered (Career.ranking S.2 (Game.paramU32 req.params 0)) 0 := by
  have hquery := leaderboardQuery_triple env c req w ⟨hS, rfl⟩
  have hranks : Career.Ranks S.2 (Game.paramU32 req.params 0) _ := Career.ranking_ranks
  generalize Career.ranking S.2 (Game.paramU32 req.params 0) = ranked at hquery hranks
  refine ⟨hranks, fun m w' hrun => ?_, fun hsteady hlong => ?_, fun pid count n hn => ?_⟩
  · rcases hquery with ⟨m', w1, hm, shown, hshown, hm'⟩ | ⟨e, w1, he, -⟩
    · cases hrun.symm.trans hm
      refine ⟨_, hm', ?_, fun hsteady => ?_⟩
      · rcases hshown with rfl | ⟨-, rfl⟩
        · obtain ⟨start, n, hn, hpage⟩ := leaderboardPage_window shown (w.heap c).userPid
            (Game.paramU32 req.params 4) (Game.paramU32 req.params 8)
            (req.method == Game.methodLeaderboardSelf)
          unfold pageOf
          rw [hpage]
          exact absolute_window hranks hn
        · exact ⟨List.nil_infix, Nat.zero_le _, List.nodup_nil, nofun, nofun, nofun⟩
      · rcases hshown with rfl | ⟨hflaky, -⟩
        · rfl
        · exact absurd hflaky hsteady
    · cases hrun.symm.trans he
  · rcases hquery with ⟨m, w1, hm, -⟩ | ⟨e, w1, -, hflaky | ⟨row, hrow, hshort⟩⟩
    · exact ⟨m, w1, hm⟩
    · exact absurd hflaky hsteady
    · exact absurd (hlong row hrow) (Nat.not_le.mpr hshort)
  · have hpage : ∀ k, lines (leaderboardPage ranked pid (k * count) count false) =
        numbered (window ranked (k * count) count) (k * count) := by
      intro k
      unfold leaderboardPage
      split
      · next hnil =>
        subst hnil
        simp [lines, numbered, window]
      · rfl
    simp only [hpage]
    rw [windows_tile, List.take_of_length_le hn]

end

/-! ## A long board -/

def boardRow (cash : Nat) : LeaderboardRow := { cash := F32.ofInt cash, modeStat := 0, mapId := 0 }

/-- Players with the same cash on the board of category 301. -/
def crowd (n : Nat) : Dict (Nat × Nat) LeaderboardRow where
  entries := (List.range n).map fun i => ((10000 + i, 301), boardRow 1)
  nodup := by
    rw [List.map_map]
    refine List.nodup_range.map fun i j h => ?_
    exact Nat.add_left_cancel (congrArg Prod.fst h)

theorem ranking_crowd (n : Nat) :
    Career.ranking (crowd n) 301 = (List.range n).map fun i => (10000 + i, boardRow 1) := by
  have hall : ((crowd n).entries.filter fun e =>
      decide (e.1.2 = 301) && F32.isPositive e.2.cash) = (crowd n).entries := by
    refine List.filter_eq_self.mpr fun e he => ?_
    obtain ⟨i, -, rfl⟩ := List.mem_map.mp he
    have hpos : F32.isPositive (boardRow 1).cash = true := by decide
    exact (Bool.and_eq_true _ _).mpr ⟨decide_eq_true rfl, hpos⟩
  unfold Career.ranking
  rw [hall]
  show (((List.range n).map fun i => ((10000 + i, 301), boardRow 1)).map _).mergeSort _ = _
  rw [List.map_map]
  refine List.mergeSort_of_pairwise (List.pairwise_map.mpr (List.pairwise_of_forall fun i j => ?_))
  exact decide_eq_true (Nat.le_refl _)

def crowded (n : Nat) : World :=
  { Sample.world [Sample.connection .secure 1 10000] with
    db := { Db.migrated with
      tables := { Db.migrated.tables with leaderboardStats := crowd n }, opened := true } }

theorem crowded_holds (n : Nat) : (crowded n).db.Holds (Dict.empty, crowd n) :=
  ⟨rfl, fun _ h => nomatch h⟩

/-- A page of one row of category 301, in the Global view. -/
def global (offset : Nat) : Request where
  proto := 60
  method := 17
  callId := 1
  params := wU32 301 ++ wU32 offset ++ wU32 1

theorem career_crowd (n pid : Nat) : 5 ≤ (Stats.career (Dict.empty, crowd n) pid).length := by
  show 5 ≤ Game.defaultCareerVec0.length
  decide

theorem steady : ¬ Flaky Sample.env := by
  rintro ⟨n, hn⟩
  cases hn

theorem leaderboard_ranks_crowd : ∃ m w',
    (Game.leaderboardQuery Sample.env 0 (global 1)).run (crowded 3) = (.ok m, w') ∧
      ∃ ls, Shows (global 1) m ls ∧ Absolute (Career.ranking (crowd 3) 301) 1 ls := by
  have hranks := leaderboard_ranks Sample.env (crowded_holds 3) 0 (global 1)
  obtain ⟨m, w', hrun⟩ := hranks.2.2.1 steady fun row _ => career_crowd 3 row.1
  obtain ⟨ls, hls, habs, -⟩ := hranks.2.1 m w' hrun
  exact ⟨m, w', hrun, ls, hls, habs⟩

/-- The last player of a crowd, on a page of its own. -/
theorem last_of_crowd {n : Nat} (h : n < 2 ^ 32) : ∃ m w',
    (Game.leaderboardQuery Sample.env 0 (global n)).run (crowded (n + 1)) = (.ok m, w') ∧
      Shows (global n) m [((10000 + n, boardRow 1), n + 1)] := by
  have hoffset : Game.paramU32 (global n).params 4 = n := by
    unfold Game.paramU32 global
    rw [if_pos (by simp), slice_between (wU32 301) (wU32 n) (wU32 1) _ _ rfl (by simp) (by simp)]
    exact ofLE_wU32 n h
  have hcount : Game.paramU32 (global n).params 8 = 1 := by
    unfold Game.paramU32 global
    rw [if_pos (by simp), slice_between (wU32 301 ++ wU32 n) (wU32 1) [] _ _ (by simp) (by simp) (by simp)]
    rfl
  have hcat : Game.paramU32 (global n).params 0 = 301 := by
    have hslice : slice (wU32 301 ++ wU32 n ++ wU32 1) 0 4 = wU32 301 :=
      slice_between [] (wU32 301) (wU32 n ++ wU32 1) _ _ (by simp) rfl rfl
    show ofLE (slice (wU32 301 ++ wU32 n ++ wU32 1) 0 4) = 301
    rw [hslice]
    rfl
  have hlast : lines (pageOf ((List.range (n + 1)).map fun i => (10000 + i, boardRow 1)) 10000
      (global n)) = [((10000 + n, boardRow 1), n + 1)] := by
    unfold pageOf leaderboardPage
    rw [hoffset, hcount, if_neg (by simp)]
    have hrow : (((List.range (n + 1)).map fun i => (10000 + i, boardRow 1)).drop n).take 1 =
        [(10000 + n, boardRow 1)] := by
      rw [List.range_succ, List.map_append, List.drop_left' (by simp)]
      rfl
    show lines ((((List.range (n + 1)).map fun i => (10000 + i, boardRow 1)).drop n).take 1, n) = _
    rw [hrow]
    rfl
  rcases leaderboardQuery_triple Sample.env 0 (global n) (crowded (n + 1))
    ⟨crowded_holds (n + 1), rfl⟩ with ⟨m, w', hm, shown, hshown | ⟨hflaky, -⟩, hm'⟩ |
      ⟨e, w', -, hflaky | ⟨row, -, hshort⟩⟩
  · refine ⟨m, w', hm, ?_⟩
    rw [hcat, ranking_crowd] at hshown
    rw [hshown] at hm'
    rw [← hlast]
    exact hm'
  · exact absurd hflaky steady
  · exact absurd hflaky steady
  · exact absurd (career_crowd (n + 1) row.1) (Nat.not_le.mpr hshort)

/-- Number 2^24 + 1 goes out as 2^24 in the # column. -/
theorem column_rounded : (Career.ranking (crowd (2 ^ 24 + 1)) 301)[2 ^ 24]? =
      some (10000 + 2 ^ 24, boardRow 1) ∧
    (∃ m w', (Game.leaderboardQuery Sample.env 0 (global (2 ^ 24))).run (crowded (2 ^ 24 + 1)) =
        (.ok m, w') ∧ Shows (global (2 ^ 24)) m [((10000 + 2 ^ 24, boardRow 1), 2 ^ 24 + 1)]) ∧
    F32.trunc (F32.ofInt ((2 ^ 24 + 1 : Nat) : Int)) = some (2 ^ 24) := by
  refine ⟨?_, last_of_crowd (by omega), by decide⟩
  rw [ranking_crowd, List.getElem?_map, List.getElem?_range (Nat.lt_succ_self _)]
  rfl

/-! ## The page around a player -/

/-- How many rows of the ranking are above the player's. -/
def rowsAbove (ranked : List (Nat × LeaderboardRow)) (pid : Nat) : Nat :=
  ranked.findIdx fun r => r.1 == pid

/-- Three rows of context come first, and the client's count may end the page before the
player. -/
theorem aroundSelf_iff {ranked : List (Nat × LeaderboardRow)} {pid : Nat}
    (hin : pid ∈ ranked.map (·.1)) (offset count : Nat) :
    pid ∈ (leaderboardPage ranked pid offset count true).1.map (·.1) ↔
      3 < count ∨ rowsAbove ranked pid < count := by
  have hrow : ∃ r ∈ ranked, (r.1 == pid) = true := by
    obtain ⟨r, hr, rfl⟩ := List.mem_map.mp hin
    exact ⟨r, hr, beq_self_eq_true _⟩
  have hne : ranked ≠ [] := by
    rintro rfl
    cases hin
  have hcentre : centre ranked pid = rowsAbove ranked pid := by
    unfold centre
    rw [List.findIdx?_eq_some_of_exists hrow]
    rfl
  rw [leaderboardPage_self hne, hcentre]
  have hmem := exists_mem_window hrow (Nat.sub_le (rowsAbove ranked pid) aroundselfLead)
    (min count (rowsAbove ranked pid + 1 + aroundselfTrail - (rowsAbove ranked pid - aroundselfLead)))
  have hpage : ∀ page : List (Nat × LeaderboardRow), pid ∈ page.map (·.1) ↔
      ∃ r ∈ page, (r.1 == pid) = true := by
    intro page
    rw [List.mem_map]
    simp only [beq_iff_eq]
  rw [hpage, hmem]
  unfold rowsAbove aroundselfLead aroundselfTrail
  omega

/-- Five players, the last of them fifth. -/
def five : List (Nat × LeaderboardRow) :=
  [(10000, boardRow 500), (10001, boardRow 400), (10002, boardRow 300), (10003, boardRow 200),
    (10004, boardRow 100)]

theorem aroundSelf_five : 10004 ∈ five.map (·.1) ∧
    (10004 ∈ (leaderboardPage five 10004 0 4 true).1.map (·.1) ↔ 3 < 4 ∨ rowsAbove five 10004 < 4) :=
  ⟨by decide, aroundSelf_iff (by decide) 0 4⟩

/-- A page of three rows around the fifth player is the three rows above it. -/
theorem self_cut_off : 10004 ∈ five.map (·.1) ∧
    10004 ∉ (leaderboardPage five 10004 0 3 true).1.map (·.1) := by
  decide

end Leaderboard
end Ghostbusters
