import GhostbustersServer.Effects.Stats
import GhostbustersServer.Guarantees.Sample

/-!
# Store and serve

Beside the server runs an observer that keeps the uploads the database took: the player
and the parameters of every ReportStats whose `_persist_match` returned True.

    Shows ups cat v     a vec1 of category `cat` carries what the uploads `ups` left
    Serving e s         the m9 reply to `e`, if it asks for one, shows for every player
                        it names the uploads of that player, and depends on no others

Every step of every run is serving.
-/

namespace Ghostbusters

open Py PRUDPServer

namespace Store

open SparkStats

/-! ## Uploads -/

structure Upload where
  pid : Nat
  params : Bytes
  deriving DecidableEq, Repr

namespace Upload

variable (u : Upload)

def vec0 : List F32 := (Game.parseM12SenderVec0 u.params u.pid).getD []

def vec1 : List F32 := (Game.parseM12SenderVec1 u.params u.pid).getD []

/-- Where the block of an instant board starts in vec1. -/
def blockBase : Nat → Option Nat
  | 303 => some 7
  | 302 => some 11
  | 304 => some 15
  | 307 => some 19
  | 305 => some 23
  | 306 => some 27
  | _ => none

/-- Cash, mode stat and map that the upload carries for a board. -/
def row (cat : Nat) : Option (F32 × F32 × F32) :=
  if 31 ≤ u.vec1.length then
    if cat = 301 then some (u.vec0.getD 5 0, 0, 0)
    else (blockBase cat).map fun b => (u.vec1.getD b 0, u.vec1.getD (b + 1) 0, u.vec1.getD (b + 2) 0)
  else if 15 ≤ u.vec1.length ∧ cat = 201 then some (u.vec1.getD 5 0, 0, 0)
  else none

end Upload

/-- The uploads of one player. -/
def own (ups : List Upload) (pid : Nat) : List Upload := ups.filter fun u => u.pid == pid

/-- The career that the latest upload left. -/
def career (ups : List Upload) : List F32 :=
  match ups.getLast? with
  | some u => Career.fitVec0 u.vec0
  | none => Game.defaultCareerVec0

/-- The row of the latest upload that carried one for the board. -/
def board (ups : List Upload) (cat : Nat) : Option (F32 × F32 × F32) :=
  (ups.filterMap fun u => u.row cat).getLast?

def boards : List Nat := [201, 301, 302, 303, 304, 305, 306, 307]

structure Shows (ups : List Upload) (cat : Nat) (vec1 : List F32) : Prop where
  career : cat = 101 → ∀ i, i ≤ 90 → ∃ x, (career ups)[i]? = some x ∧ vec1[i + 5]? = some x
  wanted : cat = 102 → ∀ j, (61 ≤ j ∧ j ≤ 80) ∨ j = 84 →
    ∃ x, (Store.career ups)[j]? = some x ∧ vec1[j - 56]? = some x
  board : cat ∈ boards → match board ups cat with
    | some (cash, modeStat, map) => vec1[5]? = some cash ∧ vec1[6]? = some modeStat ∧
      ∃ n, F32.trunc map = some n ∧ vec1[7]? = some (F32.ofInt n) ∧ F32.trunc (F32.ofInt n) = some n
    | none => vec1[5]? = some 0 ∧ vec1[6]? = some 0 ∧ vec1[7]? = some 0

/-! ## What the database makes of them -/

/-- A row as it is stored, if its map is a number. -/
def stored (r : F32 × F32 × F32) : Option LeaderboardRow :=
  (F32.trunc r.2.2).map fun n => { cash := r.1, modeStat := r.2.1, mapId := n }

theorem stored_eq_of_toInt {cash modeStat map : F32} {n : Int} (h : Game.toInt map = .ok n) :
    stored (cash, modeStat, map) = some { cash, modeStat, mapId := n } := by
  unfold Game.toInt at h
  split at h
  · next m hm =>
    cases h
    unfold stored
    rw [hm]
    rfl
  · cases h

theorem stored_zero (cash : F32) :
    stored (cash, 0, 0) = some { cash, modeStat := 0, mapId := 0 } := by
  have h : F32.trunc 0 = some 0 := by decide
  unfold stored
  rw [h]
  rfl

theorem blockRow_ok {v1 : List F32} {block : Nat × Nat} {row : Nat × LeaderboardRow}
    (h : Game.blockRow v1 block = .ok row) :
    ∃ r, row = (block.2, r) ∧ stored (v1.getD (7 + 4 * block.1) 0, v1.getD (7 + 4 * block.1 + 1) 0,
      v1.getD (7 + 4 * block.1 + 2) 0) = some r := by
  obtain ⟨n, hn, h⟩ := Act.ok_of_bind h
  cases h
  exact ⟨_, rfl, stored_eq_of_toInt hn⟩

/-- The row that the last statement for a board writes. -/
def rowFor (rows : List (Nat × LeaderboardRow)) (cat : Nat) : Option LeaderboardRow :=
  rows.reverse.lookup cat

theorem lookup_cons_ite {β : Type} (k : Nat) (x : Nat × β) (xs : List (Nat × β)) :
    (x :: xs).lookup k = if k = x.1 then some x.2 else xs.lookup k := by
  rw [List.lookup_cons]
  by_cases h : k = x.1
  · simp [h]
  · have hne : (k == x.1) = false := by simpa using h
    rw [hne, if_neg h]

theorem rowFor_cons (row : Nat × LeaderboardRow) (rows : List (Nat × LeaderboardRow)) (cat : Nat) :
    rowFor (row :: rows) cat = (rowFor rows cat).or (if cat = row.1 then some row.2 else none) := by
  unfold rowFor
  rw [List.reverse_cons, List.lookup_append, lookup_cons_ite, List.lookup_nil]

theorem rowFor_concat (rows : List (Nat × LeaderboardRow)) (row : Nat × LeaderboardRow) (cat : Nat) :
    rowFor (rows ++ [row]) cat = if cat = row.1 then some row.2 else rowFor rows cat := by
  unfold rowFor
  rw [List.reverse_append, List.reverse_singleton, List.singleton_append, lookup_cons_ite]

theorem get?_foldl_set (rows : List (Nat × LeaderboardRow)) (B : Dict (Nat × Nat) LeaderboardRow)
    (pid p cat : Nat) :
    (rows.foldl (fun b row => b.set (pid, row.1) row.2) B).get? (p, cat) =
      if p = pid then (rowFor rows cat).or (B.get? (p, cat)) else B.get? (p, cat) := by
  induction rows using List.reverseRecOn with
  | nil => simp [rowFor]
  | append_singleton rows row ih =>
    rw [List.foldl_append, List.foldl_cons, List.foldl_nil, Dict.get?_set, ih, rowFor_concat]
    by_cases hp : p = pid
    · by_cases hc : cat = row.1
      · simp [hp, hc]
      · simp [hp, hc]
    · simp [hp]

/-- The boards of the mode blocks, if no two blocks share one. -/
theorem rowFor_blocks {v1 : List F32} {blocks : List (Nat × Nat)} {rows : List (Nat × LeaderboardRow)}
    (h : List.Forall₂ (fun block row => Game.blockRow v1 block = .ok row) blocks rows)
    (hn : (blocks.map Prod.snd).Nodup) (cat : Nat) :
    (∀ i, (i, cat) ∈ blocks → ∃ r, rowFor rows cat = some r ∧
      stored (v1.getD (7 + 4 * i) 0, v1.getD (7 + 4 * i + 1) 0, v1.getD (7 + 4 * i + 2) 0) = some r) ∧
    (cat ∉ blocks.map Prod.snd → rowFor rows cat = none) := by
  induction h with
  | nil => exact ⟨fun i hi => (by cases hi), fun _ => rfl⟩
  | @cons block row blocks rows hrow _ ih =>
    rw [List.map_cons, List.nodup_cons] at hn
    obtain ⟨hsome, hnone⟩ := ih hn.2
    obtain ⟨r, rfl, hr⟩ := blockRow_ok hrow
    refine ⟨fun i hi => ?_, fun hc => ?_⟩
    · rw [rowFor_cons]
      rcases List.mem_cons.mp hi with rfl | hi
      · rw [hnone hn.1, Option.none_or, if_pos rfl]
        exact ⟨r, rfl, hr⟩
      · obtain ⟨r', hr', hs⟩ := hsome i hi
        rw [hr']
        exact ⟨r', rfl, hs⟩
    · rw [List.map_cons, List.mem_cons, not_or] at hc
      rw [rowFor_cons, hnone hc.2, if_neg hc.1]
      rfl

theorem blockBase_eq_some_iff (cat b : Nat) :
    Upload.blockBase cat = some b ↔ ∃ i, (i, cat) ∈ Game.instantBlockCat ∧ b = 7 + 4 * i := by
  constructor
  · unfold Upload.blockBase
    intro h
    split at h <;> cases h
    · exact ⟨0, by decide, rfl⟩
    · exact ⟨1, by decide, rfl⟩
    · exact ⟨2, by decide, rfl⟩
    · exact ⟨3, by decide, rfl⟩
    · exact ⟨4, by decide, rfl⟩
    · exact ⟨5, by decide, rfl⟩
  · rintro ⟨i, hi, rfl⟩
    simp only [Game.instantBlockCat, List.mem_cons, Prod.mk.injEq, List.not_mem_nil, or_false] at hi
    rcases hi with ⟨rfl, rfl⟩ | ⟨rfl, rfl⟩ | ⟨rfl, rfl⟩ | ⟨rfl, rfl⟩ | ⟨rfl, rfl⟩ | ⟨rfl, rfl⟩ <;> rfl

/-- **The mode blocks and the boards**: what is computed is what the upload carries. -/
theorem rowFor_compute {u : Upload} {rows : List (Nat × LeaderboardRow)}
    (h : Game.computeLeaderboardRows u.vec0 (Game.parseM12SenderVec1 u.params u.pid) = .ok rows)
    (cat : Nat) :
    rowFor rows cat = (u.row cat).bind stored ∧ ((u.row cat).isSome → (rowFor rows cat).isSome) := by
  unfold Game.computeLeaderboardRows at h
  cases hv : Game.parseM12SenderVec1 u.params u.pid with
  | none =>
    have hrow : u.row cat = none := by simp [Upload.row, Upload.vec1, hv]
    rw [hv] at h
    cases h
    rw [hrow]
    exact ⟨rfl, fun hs => by cases hs⟩
  | some v1 =>
    have hvec : u.vec1 = v1 := by simp [Upload.vec1, hv]
    rw [hv] at h
    dsimp only at h
    unfold Upload.row
    rw [hvec]
    by_cases h31 : 31 ≤ v1.length
    · rw [if_pos h31] at h ⊢
      obtain ⟨blocks, hblocks, h⟩ := Act.ok_of_bind h
      cases h
      obtain ⟨hsome, hnone⟩ := rowFor_blocks (Act.forall₂_of_mapM hblocks) (by decide) cat
      rw [rowFor_concat]
      by_cases h301 : cat = 301
      · rw [if_pos h301, if_pos h301]
        exact ⟨(stored_zero _).symm, fun _ => rfl⟩
      rw [if_neg h301, if_neg h301]
      cases hbase : Upload.blockBase cat with
      | some b =>
        obtain ⟨i, hi, rfl⟩ := (blockBase_eq_some_iff cat b).mp hbase
        obtain ⟨r, hr, hs⟩ := hsome i hi
        rw [hr]
        exact ⟨hs.symm, fun _ => rfl⟩
      | none =>
        have hout : cat ∉ Game.instantBlockCat.map Prod.snd := by
          intro hin
          obtain ⟨⟨i, k⟩, hi, rfl⟩ := List.mem_map.mp hin
          have hsome := (blockBase_eq_some_iff k (7 + 4 * i)).mpr ⟨i, hi, rfl⟩
          rw [hbase] at hsome
          cases hsome
        rw [hnone hout]
        exact ⟨rfl, fun hs => by cases hs⟩
    · rw [if_neg h31] at h ⊢
      by_cases h15 : 15 ≤ v1.length
      · rw [if_pos h15] at h
        cases h
        by_cases h201 : cat = 201
        · rw [if_pos ⟨h15, h201⟩, h201]
          exact ⟨(stored_zero _).symm, fun _ => rfl⟩
        · rw [if_neg fun hc => h201 hc.2]
          refine ⟨?_, fun hs => by cases hs⟩
          simp [rowFor, h201]
      · rw [if_neg h15] at h
        cases h
        rw [if_neg fun hc => h15 hc.1]
        exact ⟨rfl, fun hs => by cases hs⟩

/-- The database `S` is what the uploads left. -/
structure Matches (S : Stats) (ups : List Upload) : Prop where
  career : ∀ pid, S.1.get? pid = (own ups pid).getLast?.map fun u => Career.packVec0 u.vec0
  board : ∀ pid cat, S.2.get? (pid, cat) = (board (own ups pid) cat).bind stored
  number : ∀ pid cat, (Store.board (own ups pid) cat).isSome → (S.2.get? (pid, cat)).isSome

theorem own_concat (ups : List Upload) (u : Upload) (pid : Nat) :
    own (ups ++ [u]) pid = if pid = u.pid then own ups pid ++ [u] else own ups pid := by
  unfold own
  rw [List.filter_append]
  by_cases h : pid = u.pid
  · simp [h]
  · have hne : (u.pid == pid) = false := by simpa using fun he => h he.symm
    simp [h, hne]

theorem board_concat (ups : List Upload) (u : Upload) (cat : Nat) :
    board (ups ++ [u]) cat = (u.row cat).or (board ups cat) := by
  unfold board
  rw [List.filterMap_append, List.getLast?_append]
  cases h : u.row cat <;> simp [h]

theorem matches_nil : Matches (Dict.empty, Dict.empty) [] where
  career := fun _ => rfl
  board := fun _ _ => rfl
  number := fun _ _ h => by cases h

/-- One more upload: nobody else's career or row is another. -/
theorem Matches.put {S : Stats} {ups : List Upload} (hm : Matches S ups) {u : Upload}
    {rows : List (Nat × LeaderboardRow)}
    (h : Game.computeLeaderboardRows u.vec0 (Game.parseM12SenderVec1 u.params u.pid) = .ok rows) :
    Matches (S.put u.pid u.vec0 rows) (ups ++ [u]) := by
  refine ⟨?_, ?_, ?_⟩
  · intro pid
    show (S.1.set u.pid (Career.packVec0 u.vec0)).get? pid = _
    rw [Dict.get?_set, own_concat]
    by_cases hp : pid = u.pid
    · rw [if_pos hp, if_pos hp, List.getLast?_concat]
      rfl
    · rw [if_neg hp, if_neg hp]
      exact hm.career pid
  · intro pid cat
    show (rows.foldl (fun b row => b.set (u.pid, row.1) row.2) S.2).get? (pid, cat) = _
    rw [get?_foldl_set, own_concat]
    by_cases hp : pid = u.pid
    · rw [if_pos hp, if_pos hp, board_concat, (rowFor_compute h cat).1, hm.board pid cat]
      cases hr : u.row cat with
      | none => rfl
      | some r =>
        have hs := (rowFor_compute h cat).2 (by rw [hr]; rfl)
        rw [(rowFor_compute h cat).1, hr] at hs
        obtain ⟨row, hrow⟩ := Option.isSome_iff_exists.mp hs
        simp only [Option.bind_some, Option.some_or] at hrow ⊢
        rw [hrow]
        rfl
    · rw [if_neg hp, if_neg hp]
      exact hm.board pid cat
  · intro pid cat hs
    show ((rows.foldl (fun b row => b.set (u.pid, row.1) row.2) S.2).get? (pid, cat)).isSome
    rw [get?_foldl_set]
    rw [own_concat] at hs
    by_cases hp : pid = u.pid
    · rw [if_pos hp] at hs ⊢
      rw [board_concat, Option.isSome_or, Bool.or_eq_true] at hs
      rw [Option.isSome_or, Bool.or_eq_true]
      exact hs.imp (rowFor_compute h cat).2 (hm.number pid cat)
    · rw [if_neg hp] at hs ⊢
      exact hm.number pid cat hs

theorem Matches.career_eq {S : Stats} {ups : List Upload} (hm : Matches S ups) (pid : Nat) :
    S.career pid = Store.career (own ups pid) := by
  unfold Stats.career Store.career
  rw [hm.career pid]
  cases (own ups pid).getLast? with
  | none => rfl
  | some u => exact unpackVec0_packVec0 u.vec0

theorem career_length (ups : List Upload) : (career ups).length = 122 := by
  unfold career
  split
  · exact fitVec0_length _
  · rfl

/-- The vec1 of an entry, from the uploads of its player. -/
def slotsFor (ups : List Upload) (cat : Nat) : Game.Slots :=
  if cat = 101 then Game.careerV1 (career ups)
  else if cat = 102 then Game.careerV1Cat102 (career ups)
  else if 201 ≤ cat then boardSlots ((board ups cat).bind stored)
  else Game.noSlots

theorem Matches.slots_eq {S : Stats} {ups : List Upload} (hm : Matches S ups) (cat pid : Nat) :
    S.slots cat pid = slotsFor (own ups pid) cat := by
  unfold Stats.slots slotsFor
  rw [hm.career_eq, hm.board]

theorem shows_slotsFor {S : Stats} {ups : List Upload} (hm : Matches S ups) (cat pid : Nat) :
    Shows (own ups pid) cat (slots Game.vec1Len (slotsFor (own ups pid) cat)) := by
  have hlen := career_length (own ups pid)
  have hslot : ∀ k, k < 96 → (slots Game.vec1Len (slotsFor (own ups pid) cat))[k]? =
      some (slotsFor (own ups pid) cat k) := fun k hk => getElem?_slots _ _ k hk
  refine ⟨?_, ?_, ?_⟩
  · rintro rfl i hi
    have hi' : i < (career (own ups pid)).length := by omega
    refine ⟨(career (own ups pid))[i], List.getElem?_eq_getElem hi', ?_⟩
    rw [hslot _ (by omega)]
    simp only [slotsFor, if_pos, Game.careerV1]
    rw [if_pos (by omega), Nat.add_sub_cancel, List.getD_eq_getElem?_getD,
      List.getElem?_eq_getElem hi', Option.getD_some]
  · rintro rfl j hj
    have hj' : j < (career (own ups pid)).length := by omega
    refine ⟨(career (own ups pid))[j], List.getElem?_eq_getElem hj', ?_⟩
    rw [hslot _ (by omega)]
    have hback : j - 56 + 56 = j := by omega
    show some (Game.careerV1Cat102 (career (own ups pid)) (j - 56)) = _
    unfold Game.careerV1Cat102
    rw [if_pos (by omega), hback, List.getD_eq_getElem?_getD, List.getElem?_eq_getElem hj',
      Option.getD_some]
  · intro hcat
    have h201 : 201 ≤ cat ∧ cat ≠ 101 ∧ cat ≠ 102 := by
      simp only [boards, List.mem_cons, List.not_mem_nil, or_false] at hcat
      omega
    have hnum := hm.number pid cat
    rw [hm.board] at hnum
    have hs : slotsFor (own ups pid) cat = boardSlots ((board (own ups pid) cat).bind stored) := by
      unfold slotsFor
      rw [if_neg h201.2.1, if_neg h201.2.2, if_pos h201.1]
    rw [hslot 5 (by omega), hslot 6 (by omega), hslot 7 (by omega), hs]
    cases hb : board (own ups pid) cat with
    | none => exact ⟨rfl, rfl, rfl⟩
    | some r =>
      obtain ⟨cash, modeStat, map⟩ := r
      rw [hb] at hnum
      obtain ⟨row, hrow⟩ := Option.isSome_iff_exists.mp (hnum rfl)
      simp only [Option.bind_some] at hrow ⊢
      unfold stored at hrow
      obtain ⟨n, hn, he⟩ := Option.map_eq_some_iff.mp hrow
      unfold stored
      dsimp only at hn ⊢
      rw [hn]
      exact ⟨rfl, rfl, n, rfl, rfl, F32.trunc_ofInt_trunc map n hn⟩

/-! ## The observer -/

variable (env : Env)

/-- The upload that an event delivers, if `_persist_match` returned True for it. -/
def uploaded (e : Event) (w : World) : List Upload :=
  match requestOf env w e with
  | none => []
  | some (_, c, req) =>
    if req.Uploads ∧ ((step env e w).trace.drop w.trace.length).any TraceEntry.isPersisted then
      [{ pid := (w.heap c).userPid, params := req.params }]
    else []

def track (e : Event) (s : World × List Upload) : World × List Upload :=
  (step env e s.1, s.2 ++ uploaded env e s.1)

/-- An m9 reply: one entry for each player of the request, with what its own uploads left. -/
structure Shown (ups : List Upload) (req : Request) (ret : Bytes) : Prop where
  read : ∃ entries, readList ret = some entries ∧
    entries.map (·.pid) = Game.parseM9Pids req.params ∧ ∀ entry ∈ entries,
      Shows (own ups entry.pid) (Game.paramU32 req.params 0) entry.vec1 ∧
      entry = served entry.pid (slotsFor (own ups entry.pid) (Game.paramU32 req.params 0))

/-- **The property of one event**: a ReadStats is answered with what is stored, and with
nothing else. -/
def Serving (e : Event) (s : World × List Upload) : Prop :=
  ∀ port c req, requestOf env s.1 e = some (port, c, req) → req.proto = 60 → req.method = 9 →
    ∃ ret new, (step env e s.1).trace = s.1.trace ++ new ∧ Shown s.2 req ret ∧
      (.sent port c (Game.ok req ret) ∈ new ∨ .sendFailed port c (Game.ok req ret) ∈ new) ∧
      ∀ port' c' msg, .sent port' c' msg ∈ new → msg = Game.ok req ret

/-! ## Every step -/

/-- **A step stores nothing, or one upload.** -/
theorem step_uploaded (e : Event) {w : World} {S : Stats} (hS : w.db.Holds S) :
    StatsKept w (step env e w) ∨ ∃ port c req, requestOf env w e = some (port, c, req) ∧
      req.Uploads ∧ Uploaded S (w.heap c).userPid req.params w (step env e w) := by
  cases hreq : requestOf env w e with
  | none => exact .inl (step_within env tolerant_statsKept e w hreq)
  | some r =>
    obtain ⟨port, c, req⟩ := r
    obtain ⟨body, w1, hr, hstep⟩ := step_request env hreq
    rw [hstep]
    have h2 : StatsKept w (w1.logged (.onPayload port c body)) :=
      trans_of StatsKept (tolerant_statsKept.received hr)
        (tolerant_statsKept.logged w1 (e := .onPayload port c body) trivial)
    have hsent := respond_send_after env port c req (w1.logged (.onPayload port c body))
    replace hsent := hsent.toQuiet.statsKept
    by_cases hu : req.Uploads
    · right
      have hup := respond_uploaded env (h2.db S hS) port c req hu
      have hpid : ((w1.logged (.onPayload port c body)).heap c).userPid = (w.heap c).userPid :=
        hr.userPid c
      rw [hpid] at hup
      exact ⟨port, c, req, rfl, hu, (hup.kept_trans h2).trans_kept hsent⟩
    · left
      have hk := respond_statsKept env (w1.logged (.onPayload port c body)) port c req hu
      exact trans_of StatsKept h2 (trans_of StatsKept hk hsent)

theorem any_isPersisted_of_kept {w w' : World} (h : StatsKept w w') :
    (w'.trace.drop w.trace.length).any TraceEntry.isPersisted = false := by
  obtain ⟨new, hnew, hall⟩ := h.log
  rw [hnew, List.drop_left, List.any_eq_false]
  intro e he
  rw [hall e he]
  exact Bool.false_ne_true

theorem step_matches (e : Event) {w : World} {ups : List Upload} {S : Stats} (hS : w.db.Holds S)
    (hm : Matches S ups) :
    ∃ S', (step env e w).db.Holds S' ∧ Matches S' (ups ++ uploaded env e w) := by
  have hkept : StatsKept w (step env e w) →
      ∃ S', (step env e w).db.Holds S' ∧ Matches S' (ups ++ uploaded env e w) := by
    intro hk
    refine ⟨S, hk.db S hS, ?_⟩
    have hnone : uploaded env e w = [] := by
      unfold uploaded
      split
      · rfl
      · rw [any_isPersisted_of_kept hk, if_neg (by simp)]
    rw [hnone, List.append_nil]
    exact hm
  rcases step_uploaded env e hS with hk | ⟨port, c, req, hreq, hu, hk | @⟨vec0, rows, new, h0, h1, h2, h3, h4⟩⟩
  · exact hkept hk
  · exact hkept hk
  · refine ⟨_, h2, ?_⟩
    let u : Upload := { pid := (w.heap c).userPid, params := req.params }
    have hvec : u.vec0 = vec0 := by simp [u, Upload.vec0, h0]
    have hone : uploaded env e w = [u] := by
      have hany : ((step env e w).trace.drop w.trace.length).any TraceEntry.isPersisted = true := by
        rw [h3, List.drop_left, List.any_eq_true]
        exact ⟨_, h4, rfl⟩
      unfold uploaded
      rw [hreq]
      simp only
      rw [if_pos ⟨hu, hany⟩]
    rw [hone, ← hvec]
    rw [← hvec] at h1
    exact hm.put h1

/-- A request whose handler logs nothing: its answer is all that is sent. -/
theorem answer_trace {w w1 w3 : World} (hrec : Received w w1) {port : Port} {c : ConnId}
    {body : Bytes} {req : Request} {m : Message}
    (hresp : (RMCDispatcher.respond env port c req).run (w1.logged (.onPayload port c body)) =
      (.ok m, w3)) (hq : w3.trace = (w1.logged (.onPayload port c body)).trace) :
    ∃ new, ((RMCDispatcher.respond env port c req >>= RMCDispatcher.send env port c).after
        (w1.logged (.onPayload port c body))).trace = w.trace ++ new ∧
      (.sent port c m ∈ new ∨ .sendFailed port c m ∈ new) ∧
      ∀ port' c' msg, .sent port' c' msg ∈ new → msg = m := by
  obtain ⟨before, hbefore, hpackets⟩ := hrec.packets
  obtain ⟨packets, hsend, hlast⟩ := send_trace env port c m w3
  have hafter : (RMCDispatcher.respond env port c req >>= RMCDispatcher.send env port c).after
      (w1.logged (.onPayload port c body)) = (RMCDispatcher.send env port c m).after w3 := by
    unfold Act.after
    rw [Act.run_bind_ok hresp]
  have hstart : w3.trace = w.trace ++ (before ++ [.onPayload port c body]) := by
    rw [hq, ← List.append_assoc, ← hbefore]
    rfl
  -- packets carry no message of their own
  have hpacket : ∀ {es : List TraceEntry}, (∀ e ∈ es, TraceEntry.IsPacket e) →
      ∀ port' c' msg, .sent port' c' msg ∉ es := fun h _ _ _ hin => h _ hin
  rw [hafter]
  rcases hlast with hlast | hlast
  · refine ⟨before ++ [.onPayload port c body] ++ (packets ++ [.sent port c m]), ?_,
      .inl (by simp), ?_⟩
    · rw [hlast, hstart, List.append_assoc w.trace]
    · intro port' c' msg hin
      rcases List.mem_append.mp hin with hin | hin
      · rcases List.mem_append.mp hin with hin | hin
        · exact absurd hin (hpacket hpackets _ _ _)
        · cases List.mem_singleton.mp hin
      · rcases List.mem_append.mp hin with hin | hin
        · exact absurd hin (hpacket hsend _ _ _)
        · cases List.mem_singleton.mp hin
          rfl
  · refine ⟨before ++ [.onPayload port c body] ++ (packets ++ [.sendFailed port c m]), ?_,
      .inr (by simp), ?_⟩
    · rw [hlast, hstart, List.append_assoc w.trace]
    · intro port' c' msg hin
      rcases List.mem_append.mp hin with hin | hin
      · rcases List.mem_append.mp hin with hin | hin
        · exact absurd hin (hpacket hpackets _ _ _)
        · cases List.mem_singleton.mp hin
      · rcases List.mem_append.mp hin with hin | hin
        · exact absurd hin (hpacket hsend _ _ _)
        · cases List.mem_singleton.mp hin

theorem shown_reply {S : Stats} {ups : List Upload} (hm : Matches S ups) (req : Request) :
    Shown ups req (S.reply (Game.paramU32 req.params 0) (Game.parseM9Pids req.params)) := by
  obtain ⟨hn, hlt⟩ := parseM9Pids_lt req.params
  refine ⟨_, readList_entries (S.slots (Game.paramU32 req.params 0)) _ hn hlt, ?_, ?_⟩
  · rw [List.map_map]
    exact List.map_id _
  · intro entry he
    obtain ⟨pid, -, rfl⟩ := List.mem_map.mp he
    rw [hm.slots_eq]
    exact ⟨shows_slotsFor hm _ pid, rfl⟩

/-- **A ReadStats in any state** whose database holds what the uploads left. -/
theorem step_serving (hr : ∀ n, env.readFails n = false) (e : Event) {w : World}
    {ups : List Upload} {S : Stats} (hS : w.db.Holds S) (hm : Matches S ups) :
    Serving env e (w, ups) := by
  intro port c req hreq h1 h2
  obtain ⟨body, w1, hrec, hstep⟩ := step_request env hreq
  have hS2 : (w1.logged (.onPayload port c body)).db.Holds S := by
    show w1.db.Holds S
    rw [hrec.db]
    exact hS
  have hlog : ∀ pid, ∃ x, Game.index (S.career pid) 5 = .ok x := by
    intro pid
    have hlen : 5 < (S.career pid).length := by
      rw [hm.career_eq, career_length]
      omega
    refine ⟨(S.career pid)[5], ?_⟩
    unfold Game.index
    rw [List.getElem?_eq_getElem hlen]
  have hh : RMCDispatcher.handlerFor env req = some fun _ _ r => Game.userStats env r :=
    RMCDispatcher.handlerFor_eq env h1 h2 rfl
  rcases Game.userStats_triple env hr req hlog _ ⟨hS2, rfl⟩ with
    ⟨m, w3, hrun, rfl, -, htrace⟩ | ⟨_, _, _, hF⟩
  · have hresp : (RMCDispatcher.respond env port c req).run (w1.logged (.onPayload port c body)) =
        (.ok (Game.ok req (S.reply (Game.paramU32 req.params 0) (Game.parseM9Pids req.params))), w3) := by
      rw [respond_run env hh, Act.after, hrun]
      rfl
    obtain ⟨new, hnew, hanswer, honly⟩ := answer_trace env hrec hresp htrace
    exact ⟨_, new, by rw [← hnew, ← hstep], shown_reply hm req, hanswer, honly⟩
  · exact hF.elim

/-- **Store and serve**, over every run from a server whose database has no stats yet. -/
theorem store_and_serve (hr : ∀ n, env.readFails n = false) (w : World)
    (hw : w.db.Holds (Dict.empty, Dict.empty)) (es : List Event) :
    Guarded (track env) (Serving env) es (w, []) := by
  refine guarded_of_preserved (I := fun s => ∃ S, s.1.db.Holds S ∧ Matches S s.2) ?_ ?_ es (w, [])
    ⟨_, hw, matches_nil⟩
  · rintro e ⟨w, ups⟩ ⟨S, hS, hm⟩
    exact step_matches env e hS hm
  · rintro e ⟨w, ups⟩ ⟨S, hS, hm⟩
    exact step_serving env hr e hS hm

/-- A campaign upload of the player 10000, with 250 of career cash and 90 on its board. -/
def campaign : Bytes :=
  wU32 7 ++ wU32 0 ++ wU32 1 ++ (wU32 10000 ++ wQstring "ann".toList ++ wU32 0 ++
    Notification.wVec 122 (fun i => if i = 5 then F32.ofInt 250 else 0) ++
    Notification.wVec 15 (fun i => if i = 5 then F32.ofInt 90 else 0) ++ wU32 0)

/-- A player gets an account, uploads, and reads its careers and its board. -/
def session : List Event :=
  [.packet .auth (Sample.remote 1) (Sample.data 1 10 1 (wQstring "ann".toList)),
   .packet .secure (Sample.remote 1) (Sample.data 1 60 12 campaign),
   .packet .secure (Sample.remote 1) (Sample.data 2 60 9 (wU32 101 ++ wU32 1 ++ wU32 10000)),
   .packet .secure (Sample.remote 1) (Sample.data 3 60 9 (wU32 201 ++ wU32 1 ++ wU32 10000))]

def player : World :=
  Sample.world [Sample.connection .auth 1 0, Sample.connection .secure 1 10000]

theorem store_and_serve_campaign :
    (runs (track Sample.env) session (player, [])).2 = [{ pid := 10000, params := campaign }] ∧
      Guarded (track Sample.env) (Serving Sample.env) session (player, []) := by
  have hempty : player.db.Holds (Dict.empty, Dict.empty) := ⟨rfl, fun t ht => by cases ht⟩
  exact ⟨by decide +kernel, store_and_serve Sample.env (fun _ => rfl) player hempty session⟩

end Store
end Ghostbusters
