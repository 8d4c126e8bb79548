import GhostbustersServer.Guarantees.Store
import GhostbustersServer.Py.Reads

/-!
# The entries of a SparkStats list

The replies and pushes that carry stats are written by two pieces of code, with vectors of
different lengths; the parsers of an upload read the same format.

    ReadBack b items     behind any 8 bytes, both parsers read of `b` the vectors of the
                         first item of a PID
    readBack_list        a list of items is read back
    encoders_agree       every encoder writes a list of items
-/

namespace Ghostbusters

open Py Act PRUDPServer

namespace Entries

open SparkStats (slots)

/-! ## The format -/

/-- A counted vector. -/
def wFloats (v : List F32) : Bytes := wU32 v.length ++ v.flatMap Career.packF32

/-- One entry of a list. -/
structure Item where
  pid : Nat
  name : Str
  txn : Nat
  vec0 : List F32
  vec1 : List F32
  vec2 : List F32

namespace Item

def bytes (i : Item) : Bytes :=
  wU32 i.pid ++ (wQstring i.name ++ (wU32 i.txn ++ (wFloats i.vec0 ++ (wFloats i.vec1 ++
    wFloats i.vec2))))

/-- Every part fits its field. -/
structure Fits (i : Item) : Prop where
  pid : i.pid < 2 ^ 32
  name : (utf8Encode i.name).length + 1 < 2 ^ 16
  vec0 : i.vec0.length < 2 ^ 32
  vec1 : i.vec1.length < 2 ^ 32
  vec2 : i.vec2.length < 2 ^ 32

/-- The vector that a parser is after. -/
def vec (i : Item) : Game.Which → List F32
  | .vec0 => i.vec0
  | .vec1 => i.vec1

end Item

def list (items : List Item) : Bytes := wU32 items.length ++ (items.map Item.bytes).flatten

def ReadBack (body : Bytes) (items : List Item) : Prop :=
  ∀ header : Bytes, header.length = 8 → ∀ pid,
    Game.parseM12SenderVec0 (header ++ body) pid = (items.find? (·.pid == pid)).map (·.vec0) ∧
      Game.parseM12SenderVec1 (header ++ body) pid = (items.find? (·.pid == pid)).map (·.vec1)

/-! ## Reading an entry -/

/-- The floats of a vector, unpacked or only passed over. -/
def floats (unpack : Bool) (n : Nat) : Cursor (List F32) := fun b off => do
  let v ← if unpack then Game.unpackFloats n b off else .ok []
  return (v, off + 4 * n)

theorem readVec_eq (unpack : Bool) :
    Game.readVec unpack = (Cursor.int 4).bind fun n => floats unpack n := by
  funext b off
  unfold Game.readVec Cursor.bind Cursor.int floats
  cases unpackFrom 4 b off <;> rfl

theorem floatsAt_inside (pre s post : Bytes) (n : Nat) (h : 4 * n ≤ s.length) :
    Career.floatsAt (pre ++ s ++ post) pre.length n = Career.floatsAt s 0 n := by
  unfold Career.floatsAt
  refine List.map_congr_left fun i hi => ?_
  have hi := List.mem_range.mp hi
  rw [List.append_assoc, Nat.add_assoc, Cursor.slice_before,
    Cursor.slice_behind s post _ _ (by omega), Nat.zero_add]

theorem reads_floats (unpack : Bool) (v : List F32) :
    Reads (floats unpack v.length) (v.flatMap Career.packF32) (if unpack then v else []) := by
  intro pre post
  have hlen := SparkStats.length_flatMap_packF32 v
  unfold floats
  cases unpack with
  | false =>
    rw [hlen]
    rfl
  | true =>
    have hv : Game.unpackFloats v.length (pre ++ v.flatMap Career.packF32 ++ post) pre.length = .ok v := by
      unfold Game.unpackFloats
      rw [if_pos (by simp only [List.length_append, hlen]; omega), floatsAt_inside _ _ _ _ (by omega),
        SparkStats.floatsAt_flatMap_packF32]
    rw [if_pos rfl, hv, hlen]
    rfl

theorem reads_wFloats (unpack : Bool) {v : List F32} (h : v.length < 2 ^ 32) :
    Reads (Game.readVec unpack) (wFloats v) (if unpack then v else []) := by
  unfold wFloats
  rw [readVec_eq]
  exact (reads_wU32 h).bind (reads_floats unpack v)

/-- The PID of an entry, and the vector that the parser is after. -/
def entry (which : Game.Which) : Cursor (Nat × List F32) :=
  (Cursor.int 4).bind fun pid => (Cursor.int 2).bind fun nlen => (Cursor.skip nlen).bind fun _ =>
    (Cursor.skip 4).bind fun _ => Cursor.bind (Game.readVec (which == .vec0)) fun v0 =>
      Cursor.bind (Game.readVec (which == .vec1)) fun v1 => Cursor.bind (Game.readVec false) fun _ =>
        Cursor.pure (pid, match which with | .vec0 => v0 | .vec1 => v1)

theorem walk_succ (which : Game.Which) (b : Bytes) (pid n off : Nat) :
    Game.walk which b pid (n + 1) off = (do
      let (e, off) ← entry which b off
      if e.1 = pid then return some e.2 else Game.walk which b pid n off) := by
  unfold entry
  rw [Game.walk]
  simp only [Cursor.bind, Cursor.int, Cursor.skip, Cursor.pure]
  cases unpackFrom 4 b off with
  | error e => rfl
  | ok k =>
    dsimp only [bind, Except.bind, pure, Except.pure]
    cases unpackFrom 2 b (off + 4) with
    | error e => rfl
    | ok nlen =>
      dsimp only
      rw [← Nat.add_assoc (off + 4) 2 nlen]
      cases Game.readVec (which == .vec0) b (off + 4 + 2 + nlen + 4) with
      | error e => rfl
      | ok r0 =>
        dsimp only
        cases Game.readVec (which == .vec1) b r0.2 with
        | error e => rfl
        | ok r1 =>
          dsimp only
          cases Game.readVec false b r1.2 <;> rfl

theorem reads_entry (which : Game.Which) {i : Item} (h : i.Fits) :
    Reads (entry which) i.bytes (i.pid, i.vec which) := by
  have hname : (utf8Encode i.name ++ [0]).length < 2 ^ 16 := by
    rw [List.length_append]
    exact h.name
  have htxn := Reads.skip (wU32 i.txn)
  rw [wU32_length] at htxn
  have hvec : i.vec which = match which with
      | .vec0 => if which == .vec0 then i.vec0 else []
      | .vec1 => if which == .vec1 then i.vec1 else [] := by
    cases which <;> rfl
  unfold entry Item.bytes wQstring
  rw [hvec, List.append_assoc]
  refine Reads.bind (reads_wU32 h.pid) (Reads.bind (reads_wU16 hname) ?_)
  refine Reads.bind (Reads.skip _) (Reads.bind htxn ?_)
  refine Reads.bind (reads_wFloats _ h.vec0) (Reads.bind (reads_wFloats _ h.vec1) ?_)
  exact (reads_wFloats false h.vec2).bind_pure _

/-! ## Reading a list -/

/-- **The walk over the entries** is the search for the first of the PID. -/
theorem walk_items (which : Game.Which) (pid : Nat) (items : List Item)
    (h : ∀ i ∈ items, i.Fits) (pre : Bytes) :
    Game.walk which (pre ++ (items.map Item.bytes).flatten) pid items.length pre.length =
      .ok ((items.find? (·.pid == pid)).map (·.vec which)) := by
  induction items generalizing pre with
  | nil => rfl
  | cons i items ih =>
    have hentry := reads_entry which (h i List.mem_cons_self) pre (items.map Item.bytes).flatten
    have hrest := ih (fun j hj => h j (List.mem_cons_of_mem _ hj)) (pre ++ i.bytes)
    rw [List.length_append] at hrest
    rw [List.map_cons, List.flatten_cons, ← List.append_assoc, List.length_cons, walk_succ, hentry]
    show (if i.pid = pid then Except.ok (some (i.vec which)) else _) = _
    by_cases hpid : i.pid = pid
    · rw [if_pos hpid, List.find?_cons_of_pos (by simp [hpid])]
      rfl
    · rw [if_neg hpid, List.find?_cons_of_neg (by simp [hpid])]
      exact hrest

theorem parseSender_list (which : Game.Which) {items : List Item} (hn : items.length < 2 ^ 32)
    (h : ∀ i ∈ items, i.Fits) {header : Bytes} (hheader : header.length = 8) (pid : Nat) :
    Game.parseSender which (header ++ list items) pid =
      (items.find? (·.pid == pid)).map (·.vec which) := by
  have hcount : unpackFrom 4 (header ++ list items) 8 = .ok items.length := by
    have hread := unpackFrom_append 4 items.length header (items.map Item.bytes).flatten (by omega)
    rw [hheader, List.append_assoc] at hread
    unfold list wU32
    rw [Nat.mod_eq_of_lt hn]
    exact hread
  have hwalk : (unpackFrom 4 (header ++ list items) 8 >>= fun n =>
      Game.walk which (header ++ list items) pid n 12) =
      .ok ((items.find? (·.pid == pid)).map (·.vec which)) := by
    have h12 := walk_items which pid items h (header ++ wU32 items.length)
    rw [List.length_append, hheader, wU32_length, List.append_assoc] at h12
    rw [hcount]
    exact h12
  unfold Game.parseSender
  rw [hwalk]

/-- **A list is read back.** -/
theorem readBack_list {items : List Item} (hn : items.length < 2 ^ 32) (h : ∀ i ∈ items, i.Fits) :
    ReadBack (list items) items := fun _ hheader pid =>
  ⟨parseSender_list .vec0 hn h hheader pid, parseSender_list .vec1 hn h hheader pid⟩

/-! ## The two writers -/

theorem wVec_eq (n : Nat) (slot : Nat → F32) : Notification.wVec n slot = wFloats (slots n slot) := by
  unfold Notification.wVec wFloats slots
  rw [List.length_map, List.length_range, List.flatMap_map]

/-- The entry that `sparkstatsEntry` writes. -/
def item (pid : Nat) (vec0 vec1 : Game.Slots) (txn vec2Len : Nat) (name : Str) : Item where
  pid := pid
  name := if name = [] then "PID".toList ++ decimal pid else name
  txn := txn
  vec0 := slots Game.vec0Len vec0
  vec1 := slots Game.vec1Len vec1
  vec2 := slots vec2Len Game.noSlots

theorem sparkstatsEntry_eq (pid : Nat) (vec0 vec1 : Game.Slots) (txn vec2Len : Nat) (name : Str) :
    Game.sparkstatsEntry pid vec0 vec1 txn vec2Len name =
      (item pid vec0 vec1 txn vec2Len name).bytes := by
  unfold Game.sparkstatsEntry Item.bytes item
  simp only [wVec_eq, List.append_assoc]

theorem length_slots (n : Nat) (slot : Nat → F32) : (slots n slot).length = n := by
  unfold slots
  rw [List.length_map, List.length_range]

theorem item_fits {pid : Nat} (vec0 vec1 : Game.Slots) (txn : Nat) {vec2Len : Nat} {name : Str}
    (hpid : pid < 2 ^ 32) (hvec2 : vec2Len < 2 ^ 32) (hname : (utf8Encode name).length + 1 < 2 ^ 16) :
    (item pid vec0 vec1 txn vec2Len name).Fits where
  pid := hpid
  name := by
    unfold item
    split
    · exact SparkStats.pidName_length pid hpid
    · exact hname
  vec0 := by
    show (slots Game.vec0Len vec0).length < _
    rw [length_slots]
    decide
  vec1 := by
    show (slots Game.vec1Len vec1).length < _
    rw [length_slots]
    decide
  vec2 := by
    show (slots vec2Len Game.noSlots).length < _
    rw [length_slots]
    exact hvec2

/-- The entry of `push_stats_processed`. -/
def processedItem (pid txn : Nat) (cash : F32) : Item where
  pid := pid
  name := "PID".toList ++ decimal pid
  txn := txn
  vec0 := slots Notification.vec0Len fun _ => 0
  vec1 := slots Notification.vec1Len fun i => if i = 10 then cash else 0
  vec2 := []

theorem statsBlob_eq (pid txn : Nat) (cash : F32) :
    Notification.statsBlob pid txn cash = list [processedItem pid txn cash] := by
  unfold Notification.statsBlob list Item.bytes processedItem
  simp only [wVec_eq, List.append_assoc, List.map_cons, List.map_nil, List.flatten_cons,
    List.flatten_nil, List.append_nil]
  rfl

theorem processedItem_fits {pid : Nat} (txn : Nat) (cash : F32) (hpid : pid < 2 ^ 32) :
    (processedItem pid txn cash).Fits where
  pid := hpid
  name := SparkStats.pidName_length pid hpid
  vec0 := by
    show (slots _ _).length < _
    rw [length_slots]
    decide
  vec1 := by
    show (slots _ _).length < _
    rw [length_slots]
    decide
  vec2 := Nat.two_pow_pos 32

/-! ## ReadStats -/

/-- The entry of a player in an m9 reply. -/
def statsItem (pid : Nat) (vec1 : Game.Slots) : Item := item pid Game.noSlots vec1 0 0 []

theorem statsItem_fits {pid : Nat} (vec1 : Game.Slots) (h : pid < 2 ^ 32) : (statsItem pid vec1).Fits :=
  item_fits _ _ _ h (Nat.two_pow_pos 32) (by decide)

/-- Entries that are written one by one are a list of items. -/
theorem flatten_entries {α : Type} {R : α → Item → Prop} {xs : List α} {encs : List Bytes}
    (h : List.Forall₂ (fun x enc => ∃ i, R x i ∧ enc = i.bytes) xs encs) :
    ∃ items, List.Forall₂ R xs items ∧ wU32 xs.length ++ encs.flatten = list items := by
  have hitems : ∃ items, List.Forall₂ R xs items ∧ encs = items.map Item.bytes := by
    induction h with
    | nil => exact ⟨[], .nil, rfl⟩
    | cons hx _ ih =>
      obtain ⟨i, hi, rfl⟩ := hx
      obtain ⟨items, hitems, rfl⟩ := ih
      exact ⟨i :: items, .cons hi hitems, rfl⟩
  obtain ⟨items, hitems, rfl⟩ := hitems
  refine ⟨items, hitems, ?_⟩
  unfold list
  rw [hitems.length_eq]

variable (env : Env)

/-- **An m9 reply** is a list with one entry for each PID asked for, whatever the database
does. -/
theorem userStats_items {P E : World → Prop} (req : Request)
    (hcareer : ∀ pid, Triple P (Game.getCareerVec0 env pid) (fun _ => P) E)
    (hboard : ∀ pid cat, Triple P (Game.getLeaderboard env pid cat) (fun _ => P) E)
    (hcash : ∀ pid, Triple P (do Act.ofExcept (Game.index (← Game.getCareerVec0 env pid) 5) : Srv F32)
      (fun _ => P) E) :
    Triple P (Game.userStats env req) (fun m w => (∃ items, m = Game.ok req (list items) ∧
      List.Forall₂ (fun pid i => ∃ vec1, i = statsItem pid vec1) (Game.parseM9Pids req.params)
        items) ∧ P w) E := by
  have hrel := Game.userStats_rel (P := P) (E := E) (R := fun _ _ => True) env req
    (fun _ pid => Triple.bind (hcareer pid) fun _ => Triple.pure fun _ hw => ⟨trivial, hw⟩)
    (fun _ pid => Triple.bind (hcareer pid) fun _ => Triple.pure fun _ hw => ⟨trivial, hw⟩)
    (fun _ pid => Triple.bind (hboard pid _) fun _ => Triple.pure fun _ hw => ⟨trivial, hw⟩)
    (fun _ _ _ _ => trivial) hcash
  refine hrel.mono (fun _ hw => hw) ?_ fun _ he => he
  rintro m w ⟨⟨encs, rfl, hencs⟩, hw⟩
  have hitems : List.Forall₂ (fun pid enc => ∃ i, (∃ vec1, i = statsItem pid vec1) ∧ enc = i.bytes)
      (Game.parseM9Pids req.params) encs := by
    refine hencs.imp ?_
    rintro pid enc ⟨vec1, -, rfl⟩
    exact ⟨_, ⟨vec1, rfl⟩, sparkstatsEntry_eq _ _ _ _ _ _⟩
  obtain ⟨items, hall, hb⟩ := flatten_entries hitems
  exact ⟨⟨items, by rw [hb], hall⟩, hw⟩

/-! ## Careers of full length -/

/-- Every career is as `upsert_career` stores it. -/
def Whole (S : Stats) : Prop := ∀ pid blob, S.1.get? pid = some blob → blob.length = 4 * Career.vec0Len

theorem whole_put {S : Stats} (h : Whole S) (pid : Nat) (vec0 : List F32)
    (rows : List (Nat × LeaderboardRow)) : Whole (S.put pid vec0 rows) := by
  intro k blob hk
  change (S.1.set pid (Career.packVec0 vec0)).get? k = some blob at hk
  rw [Dict.get?_set] at hk
  split at hk
  · cases hk
    exact SparkStats.packVec0_length vec0
  · exact h k blob hk

/-- A server whose careers all have their full length. -/
def Careers (w : World) : Prop := ∃ S, w.db.Holds S ∧ Whole S

theorem step_careers (e : Event) {w : World} (h : Careers w) : Careers (step env e w) := by
  obtain ⟨S, hS, hwhole⟩ := h
  rcases Store.step_uploaded env e hS with hk | ⟨port, c, req, -, -, hup⟩
  · exact ⟨S, hk.db S hS, hwhole⟩
  · cases hup with
    | kept hk => exact ⟨S, hk.db S hS, hwhole⟩
    | stored _ _ hput => exact ⟨_, hput, whole_put hwhole _ _ _⟩

/-! ## Reading a database that may fail -/

section
variable {S : Stats} {T : List TraceEntry}

theorem getCareerVec0_showing (pid : Nat) : Triple (Showing S T) (Game.getCareerVec0 env pid)
    (fun v w => (v = S.career pid ∨ v = Game.defaultCareerVec0) ∧ Showing S T w) fun _ => False := by
  refine Triple.bind (useDb_flaky env fun S => (S.1.get? pid).map Career.unpackVec0).attempt
    fun r => Triple.pure ?_
  intro w hw
  cases r with
  | error e => exact ⟨.inr rfl, hw.2⟩
  | ok v =>
    obtain ⟨rfl, hw⟩ := hw
    refine ⟨.inl ?_, hw⟩
    unfold Stats.career
    cases S.1.get? pid <;> rfl

theorem getLeaderboard_showing (pid cat : Nat) : Triple (Showing S T)
    (Game.getLeaderboard env pid cat) (fun _ => Showing S T) fun _ => False := by
  refine Triple.bind (useDb_flaky env fun S => S.2.get? (pid, cat)).attempt fun r => Triple.pure ?_
  intro w hw
  cases r with
  | error e => exact hw.2
  | ok v => exact hw.2

theorem index_ok {v : List F32} (h : 5 < v.length) : ∃ x, Game.index v 5 = .ok x := by
  refine ⟨v[5], ?_⟩
  unfold Game.index
  rw [List.getElem?_eq_getElem h]

theorem length_defaultCareerVec0 : 5 < Game.defaultCareerVec0.length := by
  unfold Game.defaultCareerVec0 Career.vec0Len
  rw [List.length_cons, List.length_replicate]
  omega

theorem length_career (h : Whole S) (pid : Nat) : 5 < (S.career pid).length := by
  unfold Stats.career
  cases hb : S.1.get? pid with
  | none => exact length_defaultCareerVec0
  | some blob =>
    have hblob := h pid blob hb
    show 5 < (Career.unpackVec0 blob).length
    unfold Career.unpackVec0 Career.floatsAt
    unfold Career.vec0Len at hblob
    rw [List.length_map, List.length_range]
    omega

/-- **A ReadStats is answered** where all careers have their full length. -/
theorem userStats_answered (req : Request) (h : Whole S) :
    Triple (Showing S T) (Game.userStats env req) (fun m w => (∃ items,
      m = Game.ok req (list items) ∧ List.Forall₂ (fun pid i => ∃ vec1, i = statsItem pid vec1)
        (Game.parseM9Pids req.params) items) ∧ Showing S T w) fun _ => False := by
  refine userStats_items env req (fun pid => ?_) (fun pid cat => getLeaderboard_showing env pid cat)
    fun pid => ?_
  · exact (getCareerVec0_showing env pid).mono (fun _ hw => hw) (fun _ _ hw => hw.2) fun _ hf => hf
  · refine Triple.bind (getCareerVec0_showing env pid) fun v => Triple.assume fun hv => ?_
    have hlen : 5 < v.length := by
      rcases hv with rfl | rfl
      · exact length_career h pid
      · exact length_defaultCareerVec0
    obtain ⟨x, hx⟩ := index_ok hlen
    exact Triple.ofExcept_ok hx fun _ hw => hw

end

/-! ## The players of a request -/

theorem pidsFrom_append (pids : List Nat) (h : ∀ pid ∈ pids, pid < 2 ^ 32) (pre rest : Bytes) :
    Game.pidsFrom (pre ++ (pids.flatMap wU32 ++ rest)) pids.length pre.length = pids := by
  induction pids generalizing pre with
  | nil => rfl
  | cons pid pids ih =>
    have hrest := ih (fun p hp => h p (List.mem_cons_of_mem _ hp)) (pre ++ wU32 pid)
    have hslice := slice_append pre (wU32 pid) (pids.flatMap wU32 ++ rest) 4 (wU32_length _).symm
    rw [List.length_append, wU32_length] at hrest
    rw [List.length_cons, List.flatMap_cons, List.append_assoc, Game.pidsFrom]
    rw [List.append_assoc] at hrest hslice
    rw [if_neg (by simp only [List.length_append, wU32_length]; omega), hslice, hrest,
      ofLE_wU32 pid (h pid List.mem_cons_self)]

/-- **A request names the players** that the parser finds in it. -/
theorem parseM9Pids_request (cat : Nat) (pids : List Nat) (rest : Bytes)
    (hn : pids.length < 2 ^ 32) (h : ∀ pid ∈ pids, pid ≠ 0 ∧ pid < 2 ^ 32) :
    Game.parseM9Pids (wU32 cat ++ wU32 pids.length ++ (pids.flatMap wU32 ++ rest)) = pids := by
  have hcount := slice_append (wU32 cat) (wU32 pids.length) (pids.flatMap wU32 ++ rest) 4
    (wU32_length _).symm
  rw [wU32_length] at hcount
  have hpids := pidsFrom_append pids (fun pid hp => (h pid hp).2) (wU32 cat ++ wU32 pids.length) rest
  rw [List.length_append, wU32_length, wU32_length] at hpids
  unfold Game.parseM9Pids
  rw [if_neg (by simp only [List.length_append, wU32_length]; omega), hcount, ofLE_wU32 _ hn, hpids,
    List.filter_eq_self]
  intro pid hp
  exact decide_eq_true (h pid hp).1

/-! ## Leaderboards -/

theorem paramU32_lt (p : Bytes) (off : Nat) : Game.paramU32 p off < 2 ^ 32 := by
  unfold Game.paramU32
  split
  · exact SparkStats.ofLE_slice_lt p off
  · exact Nat.two_pow_pos 32

theorem length_leaderboardPage_le (ranked : List (Nat × LeaderboardRow))
    (requesterPid offset count : Nat) (aroundSelf : Bool) :
    (Game.leaderboardPage ranked requesterPid offset count aroundSelf).1.length ≤ count := by
  unfold Game.leaderboardPage
  split
  · exact Nat.zero_le _
  · split
    · exact List.length_take_le _ _
    · exact List.length_take_le _ _

/-- An entry of a board: one slot in its vec2. -/
def BoardItem (i : Item) : Prop := ∃ pid vec0 vec1 txn name, i = item pid vec0 vec1 txn 1 name

/-- **A leaderboard reply** is a list of such entries. -/
theorem leaderboardQuery_items (c : ConnId) (req : Request) :
    Triple (fun _ => True) (Game.leaderboardQuery env c req) (fun m _ => ∃ items,
      m = Game.ok req (list items) ∧ items.length < 2 ^ 32 ∧ ∀ i ∈ items, BoardItem i)
      fun _ => True := by
  unfold Game.leaderboardQuery
  dsimp only
  refine Triple.bind (Triple.any _) fun r => Triple.bind (Triple.any _) fun conn => ?_
  generalize hpage : Game.leaderboardPage _ conn.userPid _ _ _ = out
  obtain ⟨page, start⟩ := out
  have hle : (page, start).1.length ≤ Game.paramU32 req.params 8 := by
    rw [← hpage]
    exact length_leaderboardPage_le _ _ _ _ _
  have hlen : page.length < 2 ^ 32 := Nat.lt_of_le_of_lt hle (paramU32_lt req.params 8)
  refine Triple.bind (Triple.any _) fun _ => ?_
  refine Triple.bind (Triple.mapEach (P := fun _ => True)
    (R := fun _ enc => ∃ i, BoardItem i ∧ enc = i.bytes) page.zipIdx fun x _ => ?_) fun encs =>
      Triple.assume fun hencs => ?_
  · refine Triple.bind (Triple.any _) fun name => Triple.bind (Triple.any _) fun v =>
      Triple.bind (Triple.any _) fun rank => Triple.pure fun _ _ => ⟨?_, trivial⟩
    exact ⟨_, ⟨_, _, _, _, _, rfl⟩, sparkstatsEntry_eq _ _ _ _ _ _⟩
  · obtain ⟨items, hitems, hb⟩ := flatten_entries (R := fun _ => BoardItem) hencs
    rw [List.length_zipIdx] at hb
    refine Triple.pure fun _ _ => ⟨items, by rw [← hb], ?_, ?_⟩
    · rw [← hitems.length_eq, List.length_zipIdx]
      exact hlen
    · have hall := hitems.flip.imp fun i _ h => (⟨h, trivial⟩ : BoardItem i ∧ True)
      exact ((List.forall₂_and_left _ _).mp hall).1

theorem statsItems_view {pids : List Nat} {items : List Item}
    (h : List.Forall₂ (fun pid i => ∃ vec1, i = statsItem pid vec1) pids items) :
    items.map (·.pid) = pids ∧ ∀ i ∈ items, ∃ vec1, i = statsItem i.pid vec1 := by
  induction h with
  | nil => exact ⟨rfl, by simp⟩
  | cons hi _ ih =>
    obtain ⟨vec1, rfl⟩ := hi
    refine ⟨congrArg (_ :: ·) ih.1, ?_⟩
    intro i hi
    rcases List.mem_cons.mp hi with rfl | hi
    · exact ⟨vec1, rfl⟩
    · exact ih.2 i hi

/-! ## Encoders and decoders -/

/-- What the encoders write is what the decoders read. -/
structure Agree : Prop where
  lists : ∀ items : List Item, items.length < 2 ^ 32 → (∀ i ∈ items, i.Fits) →
    ReadBack (list items) items
  /-- an m9 reply, of every category -/
  userStats : ∀ req w m w', (Game.userStats env req).run w = (.ok m, w') →
    ∃ items, m = Game.ok req (list items) ∧ items.map (·.pid) = Game.parseM9Pids req.params ∧
      (∀ i ∈ items, ∃ vec1, i = statsItem i.pid vec1) ∧ ReadBack (list items) items
  /-- there is one, in every state after careers of full length -/
  answered : ∀ w, Careers w → ∀ es req, ∃ m w',
    (Game.userStats env req).run (runs (step env) es w) = (.ok m, w')
  requested : ∀ cat (pids : List Nat) rest, pids.length < 2 ^ 32 →
    (∀ pid ∈ pids, pid ≠ 0 ∧ pid < 2 ^ 32) →
    Game.parseM9Pids (wU32 cat ++ wU32 pids.length ++ (pids.flatMap wU32 ++ rest)) = pids
  /-- the reply to an upload -/
  uploaded : ∀ pid vec0Cash vec1Cash txn, pid < 2 ^ 32 →
    ReadBack (Game.buildSparkstatsReply pid vec0Cash vec1Cash txn)
      [item pid (fun i => if i = 5 then vec0Cash else 0) (fun i => if i = 10 then vec1Cash else 0)
        txn 0 []]
  /-- a page of a board -/
  board : ∀ c req w m w', (Game.leaderboardQuery env c req).run w = (.ok m, w') →
    ∃ items, m = Game.ok req (list items) ∧ (∀ i ∈ items, i.vec2.length = 1) ∧
      ((∀ i ∈ items, i.pid < 2 ^ 32 ∧ (utf8Encode i.name).length + 1 < 2 ^ 16) →
        ReadBack (list items) items)
  /-- the text of a stats-processed event, behind its four words and its length -/
  processed : ∀ gid source pid txn cash, pid < 2 ^ 32 →
    ReadBack ((Notification.buildStatsProcessed gid source pid txn cash).drop 18)
      [processedItem pid txn cash]

theorem readBack_userStats {req : Request} {w w' : World} {m : Message}
    (hrun : (Game.userStats env req).run w = (.ok m, w')) :
    ∃ items, m = Game.ok req (list items) ∧ items.map (·.pid) = Game.parseM9Pids req.params ∧
      (∀ i ∈ items, ∃ vec1, i = statsItem i.pid vec1) ∧ ReadBack (list items) items := by
  have hitems := userStats_items (P := fun _ => True) (E := fun _ => True) env req
    (fun _ => Triple.any _) (fun _ _ => Triple.any _) (fun _ => Triple.any _)
  rcases hitems w trivial with ⟨m', w1, hr, ⟨items, hm, hall⟩, -⟩ | ⟨e, w1, hr, -⟩
  · cases hrun.symm.trans hr
    obtain ⟨hpids, hstats⟩ := statsItems_view hall
    obtain ⟨hn, hlt⟩ := SparkStats.parseM9Pids_lt req.params
    refine ⟨items, hm, hpids, hstats, readBack_list ?_ fun i hi => ?_⟩
    · rw [← hall.length_eq]
      exact hn
    · obtain ⟨vec1, hi'⟩ := hstats i hi
      have hpid : i.pid ∈ Game.parseM9Pids req.params := by
        rw [← hpids]
        exact List.mem_map_of_mem hi
      rw [hi']
      exact statsItem_fits vec1 (hlt _ hpid)
  · cases hrun.symm.trans hr

theorem readBack_leaderboardQuery {c : ConnId} {req : Request} {w w' : World} {m : Message}
    (hrun : (Game.leaderboardQuery env c req).run w = (.ok m, w')) :
    ∃ items, m = Game.ok req (list items) ∧ (∀ i ∈ items, i.vec2.length = 1) ∧
      ((∀ i ∈ items, i.pid < 2 ^ 32 ∧ (utf8Encode i.name).length + 1 < 2 ^ 16) →
        ReadBack (list items) items) := by
  rcases leaderboardQuery_items env c req w trivial with
    ⟨m', w1, hr, items, hm, hn, hall⟩ | ⟨e, w1, hr, -⟩
  · cases hrun.symm.trans hr
    refine ⟨items, hm, fun i hi => ?_, fun hfit => readBack_list hn fun i hi => ?_⟩
    · obtain ⟨pid, vec0, vec1, txn, name, rfl⟩ := hall i hi
      exact length_slots 1 _
    · obtain ⟨hpid, hname⟩ := hfit i hi
      obtain ⟨pid, vec0, vec1, txn, name, rfl⟩ := hall i hi
      have hfits : (item pid vec0 vec1 txn 1 []).Fits := item_fits _ _ _ hpid (by decide) (by decide)
      exact { hfits with name := hname }
  · cases hrun.symm.trans hr

theorem readBack_buildSparkstatsReply {pid : Nat} (vec0Cash vec1Cash : F32) (txn : Nat)
    (hpid : pid < 2 ^ 32) : ReadBack (Game.buildSparkstatsReply pid vec0Cash vec1Cash txn)
      [item pid (fun i => if i = 5 then vec0Cash else 0) (fun i => if i = 10 then vec1Cash else 0)
        txn 0 []] := by
  have hlist : Game.buildSparkstatsReply pid vec0Cash vec1Cash txn = list [item pid
      (fun i => if i = 5 then vec0Cash else 0) (fun i => if i = 10 then vec1Cash else 0) txn 0 []] := by
    unfold Game.buildSparkstatsReply list
    rw [sparkstatsEntry_eq, List.map_singleton, List.flatten_singleton]
    rfl
  rw [hlist]
  refine readBack_list (Nat.one_lt_two_pow (by omega)) fun i hi => ?_
  rw [List.mem_singleton.mp hi]
  exact item_fits _ _ _ hpid (Nat.two_pow_pos 32) (by decide)

theorem readBack_buildStatsProcessed (gid source : Nat) {pid : Nat} (txn : Nat) (cash : F32)
    (hpid : pid < 2 ^ 32) :
    ReadBack ((Notification.buildStatsProcessed gid source pid txn cash).drop 18)
      [processedItem pid txn cash] := by
  have hblob : (Notification.buildStatsProcessed gid source pid txn cash).drop 18 =
      list [processedItem pid txn cash] := by
    rw [← statsBlob_eq]
    exact List.drop_left' (by simp only [List.length_append, wU32_length, wU16_length])
  rw [hblob]
  refine readBack_list (Nat.one_lt_two_pow (by omega)) fun i hi => ?_
  rw [List.mem_singleton.mp hi]
  exact processedItem_fits txn cash hpid

/-- **Encoders and decoders agree.** -/
theorem encoders_agree : Agree env where
  lists := fun _ hn h => readBack_list hn h
  userStats := fun _ _ _ _ hrun => readBack_userStats env hrun
  answered := by
    intro w hw es req
    obtain ⟨S, hS, hwhole⟩ := runs_preserves (fun e _ h => step_careers env e h) es w hw
    rcases userStats_answered env req hwhole _ ⟨hS, rfl⟩ with ⟨m, w', hr, -⟩ | ⟨_, _, _, hF⟩
    · exact ⟨m, w', hr⟩
    · exact hF.elim
  requested := parseM9Pids_request
  uploaded := fun _ vec0Cash vec1Cash txn hpid => readBack_buildSparkstatsReply vec0Cash vec1Cash txn hpid
  board := fun _ _ _ _ _ hrun => readBack_leaderboardQuery env hrun
  processed := fun gid source _ txn cash hpid => readBack_buildStatsProcessed gid source txn cash hpid

/-- Two players in one list, each with cash of its own. -/
def two : List Item :=
  [statsItem 10000 fun i => if i = 10 then F32.ofInt 250 else 0,
    statsItem 10001 fun i => if i = 10 then F32.ofInt 90 else 0]

theorem encoders_agree_two :
    Game.parseM12SenderVec1 (List.replicate 8 0 ++ list two) 10001 =
        some (slots Game.vec1Len fun i => if i = 10 then F32.ofInt 90 else 0) ∧
      Game.parseM12SenderVec0 (List.replicate 8 0 ++ list two) 10002 = none := by
  have hread := (encoders_agree Sample.env).lists two (by decide) (by
    intro i hi
    rcases List.mem_cons.mp hi with rfl | hi
    · exact statsItem_fits _ (by decide)
    · rw [List.mem_singleton.mp hi]
      exact statsItem_fits _ (by decide)) (List.replicate 8 0) rfl
  exact ⟨(hread 10001).2, (hread 10002).1⟩

end Entries
end Ghostbusters
