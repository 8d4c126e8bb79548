import GhostbustersServer.Effects.SparkStats
import GhostbustersServer.Effects.Tolerant
import GhostbustersServer.Py.Triple

/-!
# What a request does to the stored stats

    StatsKept w w'           the stored stats are the same, and no upload was persisted
    Uploaded S pid p w w'    they are the same, or the upload in `p` was persisted in full
    userStats_triple         an m9 reply shows what is stored

Every request but a ReportStats is within `StatsKept`.
-/

namespace Ghostbusters

open Py Act

abbrev Stats : Type := Dict Nat Bytes × Dict (Nat × Nat) LeaderboardRow

/-- One upload has replaced the career of the player and its rows. -/
def Stats.put (S : Stats) (pid : Nat) (vec0 : List F32) (rows : List (Nat × LeaderboardRow)) :
    Stats :=
  (S.1.set pid (Career.packVec0 vec0), rows.foldl (fun b row => b.set (pid, row.1) row.2) S.2)

def TraceEntry.isPersisted : TraceEntry → Bool
  | .persisted _ _ _ => true
  | _ => false

theorem TraceEntry.IsSend.isPersisted {e : TraceEntry} (h : e.IsSend) : e.isPersisted = false := by
  cases e <;> first | rfl | exact h.elim

theorem TraceEntry.IsPlain.isPersisted {e : TraceEntry} (h : e.IsPlain) : e.isPersisted = false := by
  cases e <;> first | rfl | exact h.elim

structure StatsKept (w w' : World) : Prop where
  db : w.db.Kept w'.db
  log : LogGrows (fun e => e.isPersisted = false) w w'

instance : IsPreorder World StatsKept where
  refl := fun w => ⟨fun _ h => h, LogGrows.refl _ w⟩
  trans := fun _ _ _ h1 h2 => ⟨fun S h => h2.db S (h1.db S h), h1.log.trans h2.log⟩

theorem Quiet.statsKept {w w' : World} (h : Quiet w w') : StatsKept w w' :=
  ⟨h.db, h.sends.mono fun _ he => he.isPersisted⟩

theorem statsKept_of_quiet {α : Type} {m : Srv α} (h : Within Quiet m) : Within StatsKept m :=
  h.mono fun _ _ hq => hq.statsKept

theorem tolerant_statsKept : Tolerant StatsKept where
  mute := fun _ _ h => h.toQuiet.statsKept
  plain := fun _ _ hd hl => ⟨by rw [hd]; exact fun _ h => h, hl.mono fun _ he => he.isPersisted⟩

variable (env : Env)

/-! ## Requests that store nothing -/

theorem telling_statsKept : Telling env StatsKept where
  toLobbying := (tolerant_statsKept.batching env).toLobbying
  event := fun port c _ _ _ _ _ _ _ => statsKept_of_quiet (sendRequest_quiet env port c _ _ _)

/-- **Every request but an upload** leaves the stored stats alone. -/
theorem respond_statsKept (w : World) (port : Port) (c : ConnId) (req : Request)
    (hn : ¬ req.Uploads) : StatsKept w ((RMCDispatcher.respond env port c req).after w) :=
  (telling_statsKept env).respond port c req
    (fun _ => (registerEx_mute c req).mono tolerant_statsKept.mute) (fun hu => absurd hu hn) w

/-! ## One transaction -/

namespace Db

/-- Inside a transaction that started from `S` and has made `T` of it. -/
def During (S T : Stats) (d : Db) : Prop :=
  d.tables.stats = T ∧ ∃ t, d.saved = some t ∧ t.stats = S

theorem read_tables {P : Db → Prop} {t : Tables} (ht : ∀ d, P d → d.tables = t)
    (h : ∀ d, P d → P { d with reads := d.reads + 1 }) :
    Triple P (Db.read env) (fun u d => u = t ∧ P d) P := by
  intro d hd
  unfold Db.read
  rw [run_get_bind, run_modify_bind]
  split
  · exact .inr ⟨_, _, rfl, h d hd⟩
  · exact .inl ⟨_, _, rfl, ht d hd, h d hd⟩

theorem write_cases (f : Tables → Option Tables) (d : Db) :
    (Db.write env f).run d = (.error .databaseError, { d with writes := d.writes + 1 }) ∨
    ∃ t, f d.tables = some t ∧
      (Db.write env f).run d = (.ok (), { d with writes := d.writes + 1, tables := t }) := by
  unfold Db.write
  rw [run_get_bind, run_modify_bind]
  split
  · exact .inl rfl
  · split
    · exact .inl rfl
    · next t ht => exact .inr ⟨t, ht, rfl⟩

/-- A statement of the transaction that makes `T'` of `T` if it has an effect. -/
theorem write_during {S T T' : Stats} {f : Tables → Option Tables}
    (h : ∀ t t', t.stats = T → f t = some t' → t'.stats = T') :
    Triple (During S T) (Db.write env f) (fun _ => During S T') (fun d => ∃ T, During S T d) := by
  rintro d ⟨hT, hS⟩
  rcases write_cases env f d with hr | ⟨t, ht, hr⟩
  · exact .inr ⟨_, _, hr, T, hT, hS⟩
  · exact .inl ⟨(), _, hr, h _ _ hT ht, hS⟩

theorem begin_triple (S : Stats) :
    Triple (fun d => d.Holds S) (Db.begin env) (fun _ => During S S) fun d => d.Holds S := by
  rintro d ⟨hT, hS⟩
  unfold Db.begin
  rcases write_cases env some d with hr | ⟨t, ht, hr⟩
  · exact .inr ⟨_, _, run_bind_error hr _, hT, hS⟩
  · cases ht
    rw [run_bind_ok hr, run_get_bind]
    split
    · exact .inr ⟨_, _, rfl, hT, hS⟩
    · exact .inl ⟨_, _, rfl, hT, d.tables, rfl, hT⟩

theorem commit_triple (S T : Stats) :
    Triple (During S T) (Db.commit env) (fun _ d => d.Holds T) fun d => ∃ T, During S T d := by
  refine Triple.bind (Q := fun _ => During S T) (write_during env ?_) fun _ => Triple.modify ?_
  · intro t t' ht he
    cases he
    exact ht
  · rintro d ⟨hT, -⟩
    exact ⟨hT, fun t ht => by cases ht⟩

theorem rollback_holds {S T : Stats} {d : Db} (h : During S T d) :
    (Db.rollback.after d).Holds S := by
  obtain ⟨-, t, ht, hS⟩ := h
  refine ⟨?_, fun t' ht' => by cases ht'⟩
  show (d.saved.getD d.tables).stats = S
  rw [ht]
  exact hS

end Db

theorem stats_putCareer {pid : Nat} {blob : Bytes} {t t' : Tables} {S : Stats} (hS : t.stats = S)
    (h : Career.putCareer pid blob t = some t') : t'.stats = (S.1.set pid blob, S.2) := by
  unfold Career.putCareer at h
  split at h
  · cases h
  · cases h
    rw [← hS]
    rfl

theorem stats_putLeaderboard {pid cat : Nat} {row : LeaderboardRow} {t t' : Tables} {S : Stats}
    (hS : t.stats = S) (h : Career.putLeaderboard pid cat row t = some t') :
    t'.stats = (S.1, S.2.set (pid, cat) row) := by
  unfold Career.putLeaderboard at h
  split at h
  · cases h
  · cases h
    rw [← hS]
    rfl

namespace Game

theorem writeMatch_triple (S : Stats) (pid : Nat) (vec0 : List F32)
    (rows : List (Nat × LeaderboardRow)) :
    Triple (Db.During S S) (writeMatch env pid vec0 rows) (fun _ d => d.Holds (S.put pid vec0 rows))
      fun d => ∃ T, Db.During S T d := by
  -- the rows that are done are in the table
  have hrows := Triple.forEach (E := fun d => ∃ T, Db.During S T d)
    (I := fun done => Db.During S (S.put pid vec0 done))
    (f := fun row : Nat × LeaderboardRow => Career.upsertLeaderboard env pid row.1 row.2) rows ?_ []
  · refine Triple.bind (Q := fun _ => Db.During S (S.put pid vec0 []))
      (Db.write_during env fun t t' => stats_putCareer) fun _ => ?_
    exact Triple.bind hrows fun _ => Db.commit_triple env S _
  · intro done row _
    refine Db.write_during env fun t t' ht he => ?_
    rw [stats_putLeaderboard ht he]
    unfold Stats.put
    rw [List.foldl_append]
    rfl

/-- **All or nothing.** -/
theorem matchTransaction_triple (S : Stats) (pid : Nat) (vec0 : List F32)
    (rows : List (Nat × LeaderboardRow)) :
    Triple (fun d => d.Holds S) (matchTransaction env pid vec0 rows)
      (fun _ d => d.Holds (S.put pid vec0 rows)) fun d => d.Holds S := by
  have hcon : Triple (fun d : Db => d.Holds S) (Db.dbCon env) (fun _ d => d.Holds S)
      fun d => d.Holds S := by
    intro d hd
    have hk := Db.dbCon_kept env d S hd
    rcases hr : (Db.dbCon env).run d with ⟨r, d'⟩
    rw [hr] at hk
    cases r with
    | ok u => exact .inl ⟨u, d', rfl, hk⟩
    | error e => exact .inr ⟨e, d', rfl, hk⟩
  refine Triple.bind hcon fun _ => ?_
  refine Triple.bind (Db.begin_triple env S) fun _ => ?_
  refine Triple.bind (writeMatch_triple env S pid vec0 rows).attempt fun r => ?_
  cases r with
  | ok u => exact Triple.pure fun _ h => h
  | error e =>
    rintro d ⟨T, hd⟩
    exact .inr ⟨e, _, rfl, Db.rollback_holds hd⟩

end Game

/-! ## One upload -/

/-- What an upload leaves, on a database that held `S`. -/
inductive Uploaded (S : Stats) (pid : Nat) (params : Bytes) (w w' : World) : Prop where
  | kept : StatsKept w w' → Uploaded S pid params w w'
  | stored {vec0 rows new} : Game.parseM12SenderVec0 params pid = some vec0 →
      Game.computeLeaderboardRows vec0 (Game.parseM12SenderVec1 params pid) = .ok rows →
      w'.db.Holds (S.put pid vec0 rows) → w'.trace = w.trace ++ new →
      .persisted pid vec0 rows ∈ new → Uploaded S pid params w w'

namespace Uploaded

variable {S : Stats} {pid : Nat} {params : Bytes} {w w1 w' : World}

theorem trans_kept (h : Uploaded S pid params w w1) (hk : StatsKept w1 w') :
    Uploaded S pid params w w' := by
  cases h with
  | kept h => exact .kept (trans_of StatsKept h hk)
  | @stored vec0 rows new h1 h2 h3 h4 h5 =>
    obtain ⟨more, hmore, -⟩ := hk.log
    have htrace : w'.trace = w.trace ++ (new ++ more) := by
      rw [hmore, h4, List.append_assoc]
    exact .stored h1 h2 (hk.db _ h3) htrace (List.mem_append_left _ h5)

theorem kept_trans (hk : StatsKept w w1) (h : Uploaded S pid params w1 w') :
    Uploaded S pid params w w' := by
  cases h with
  | kept h => exact .kept (trans_of StatsKept hk h)
  | @stored vec0 rows new h1 h2 h3 h4 h5 =>
    obtain ⟨more, hmore, -⟩ := hk.log
    have htrace : w'.trace = w.trace ++ (more ++ new) := by
      rw [h4, hmore, List.append_assoc]
    exact .stored h1 h2 h3 htrace (List.mem_append_right _ h5)

/-- What follows an upload stores nothing. -/
theorem bind {α β : Type} {m : Srv α} {f : α → Srv β} (hm : Uploaded S pid params w (m.after w))
    (hf : ∀ a, Within StatsKept (f a)) : Uploaded S pid params w ((m >>= f).after w) := by
  unfold after at *
  rcases run_bind_cases m f w with ⟨e, -, hb⟩ | ⟨a, -, hb⟩
  · rw [hb]
    exact hm
  · rw [hb]
    exact hm.trans_kept (hf a _)

/-- What comes before it stores nothing. -/
theorem after_bind {α β : Type} {m : Srv α} {f : α → Srv β} (hm : Within StatsKept m)
    (hf : ∀ a, Uploaded S pid params (m.after w) ((f a).after (m.after w))) :
    Uploaded S pid params w ((m >>= f).after w) := by
  have hk : StatsKept w (m.after w) := hm w
  unfold after at *
  rcases run_bind_cases m f w with ⟨e, -, hb⟩ | ⟨a, -, hb⟩
  · rw [hb]
    exact .kept hk
  · rw [hb]
    exact .kept_trans hk (hf a)

end Uploaded

namespace Game

theorem persistMatch_uploaded {S : Stats} {w : World} (hS : w.db.Holds S) {pid : Nat} {params : Bytes}
    {vec0 : List F32} {rows : List (Nat × LeaderboardRow)}
    (h0 : parseM12SenderVec0 params pid = some vec0)
    (h1 : computeLeaderboardRows vec0 (parseM12SenderVec1 params pid) = .ok rows) :
    Uploaded S pid params w ((persistMatch env pid vec0 rows).after w) := by
  unfold persistMatch after Srv.useDb
  rw [run_attempt_bind, run_zoom]
  rcases matchTransaction_triple env S pid vec0 rows w.db hS with ⟨u, d, hr, hd⟩ | ⟨e, d, hr, hd⟩
  · rw [hr]
    exact .stored h0 h1 hd rfl List.mem_cons_self
  · rw [hr]
    refine .kept ⟨?_, .of_same rfl⟩
    -- a ROLLBACK leaves what any state held
    intro T hT
    have := matchTransaction_triple env T pid vec0 rows w.db hT
    rw [hr] at this
    rcases this with ⟨u, d', he, -⟩ | ⟨e', d', he, hd'⟩
    · cases he
    · cases he
      exact hd'

theorem storeReport_uploaded {S : Stats} {w : World} (hS : w.db.Holds S) (pid : Nat)
    (params : Bytes) : Uploaded S pid params w ((storeReport env pid params).after w) := by
  unfold storeReport
  refine Uploaded.after_bind ((telling_statsKept env).getCareerVec0 pid) fun v => ?_
  have hS1 : ((getCareerVec0 env pid).after w).db.Holds S :=
    ((mute_closed env).getCareerVec0 pid w).db S hS
  refine Uploaded.after_bind (Within.ofExcept _) fun prior => ?_
  cases h0 : parseM12SenderVec0 params pid with
  | none => exact .kept (refl_of StatsKept _)
  | some vec0 =>
    cases vec0 with
    | nil => exact .kept (refl_of StatsKept _)
    | cons x xs =>
      dsimp only
      cases h1 : computeLeaderboardRows (x :: xs) (parseM12SenderVec1 params pid) with
      | error e => exact .kept (refl_of StatsKept _)
      | ok rows =>
        exact Uploaded.bind (f := fun _ => pure (prior, (x :: xs).getD 5 prior))
          (persistMatch_uploaded env hS1 h0 h1) fun _ => Within.pure _

theorem reportStats_uploaded {S : Stats} {w : World} (hS : w.db.Holds S) (port : Port) (c : ConnId)
    (req : Request) :
    Uploaded S (w.heap c).userPid req.params w ((reportStats env port c req).after w) := by
  unfold reportStats
  show Uploaded S _ _ w ((storeReport env (w.heap c).userPid req.params >>= _).after w)
  refine Uploaded.bind (storeReport_uploaded env hS _ _) fun r => ?_
  refine Within.bind ?_ fun txn => ?_
  · refine Within.bind Within.get fun w1 => ?_
    exact Within.bind (Within.modify fun _ => ⟨fun _ h => h, .of_same rfl⟩) fun _ => Within.pure _
  · refine Within.bind (Within.ofExcept _) fun _ => ?_
    exact Within.bind (trackReport_within (tolerant_statsKept.batching env) port _) fun _ => Within.pure _

end Game

theorem respond_uploaded {S : Stats} {w : World} (hS : w.db.Holds S) (port : Port) (c : ConnId)
    (req : Request) (hu : req.Uploads) :
    Uploaded S (w.heap c).userPid req.params w ((RMCDispatcher.respond env port c req).after w) := by
  obtain ⟨h1, h2, h3⟩ := hu
  have hh : RMCDispatcher.handlerFor env req =
      some fun port c r => Game.lifecycleStub env port c r :=
    RMCDispatcher.handlerFor_eq env h1 h2 rfl
  rw [respond_after_of env hh]
  show Uploaded S _ _ w ((Game.lifecycleStub env port c req).after w)
  unfold Game.lifecycleStub
  rw [if_pos ⟨h2, h3⟩]
  exact Game.reportStats_uploaded env hS port c req

/-! ## Reading -/

/-- The career that is stored, or the one of a new player. -/
def Stats.career (S : Stats) (pid : Nat) : List F32 :=
  match S.1.get? pid with
  | some blob => Career.unpackVec0 blob
  | none => Game.defaultCareerVec0

/-- Cash, mode stat and map of a row, or zeros. -/
def boardSlots (lb : Option LeaderboardRow) : Game.Slots := fun k =>
  match lb with
  | some row => if k = 5 then row.cash else if k = 6 then row.modeStat
    else if k = 7 then F32.ofInt row.mapId else 0
  | none => 0

/-- The vec1 of a player in an m9 reply. -/
def Stats.slots (S : Stats) (cat pid : Nat) : Game.Slots :=
  if cat = 101 then Game.careerV1 (S.career pid)
  else if cat = 102 then Game.careerV1Cat102 (S.career pid)
  else if 201 ≤ cat then boardSlots (S.2.get? (pid, cat))
  else Game.noSlots

/-- An m9 reply. -/
def Stats.reply (S : Stats) (cat : Nat) (pids : List Nat) : Bytes :=
  wU32 pids.length ++ (pids.map fun pid =>
    Game.sparkstatsEntry pid Game.noSlots (S.slots cat pid) 0 0 []).flatten

/-- The entry of a player whose vec1 is as `R` says. -/
def EntryOf (R : Nat → Game.Slots → Prop) (pid : Nat) (enc : Bytes) : Prop :=
  ∃ vec1, R pid vec1 ∧ enc = Game.sparkstatsEntry pid Game.noSlots vec1 0 0 []

/-- An m9 reply with one such entry for each PID of the request. -/
def RepliesWith (R : Nat → Game.Slots → Prop) (req : Request) (m : Message) : Prop :=
  ∃ encs, m = Game.ok req (wU32 (Game.parseM9Pids req.params).length ++ encs.flatten) ∧
    List.Forall₂ (EntryOf R) (Game.parseM9Pids req.params) encs

/-- Where the vec1 of each player is known. -/
theorem RepliesWith.eq_of_slots {slotsOf : Nat → Game.Slots} {req : Request} {m : Message}
    (h : RepliesWith (fun pid vec1 => vec1 = slotsOf pid) req m) :
    m = Game.ok req (wU32 (Game.parseM9Pids req.params).length ++
      ((Game.parseM9Pids req.params).map fun pid =>
        Game.sparkstatsEntry pid Game.noSlots (slotsOf pid) 0 0 []).flatten) := by
  obtain ⟨encs, rfl, hencs⟩ := h
  have hmap : encs = (Game.parseM9Pids req.params).map fun pid =>
      Game.sparkstatsEntry pid Game.noSlots (slotsOf pid) 0 0 [] := by
    refine eq_map_of_forall₂ (hencs.imp ?_)
    rintro pid enc ⟨_, rfl, rfl⟩
    rfl
  rw [hmap]

namespace Game

section
variable {P E : World → Prop} {R : Nat → Slots → Prop}

theorem statsReply_rel {slotsOf : Nat → Srv Slots} (pids : List Nat)
    (h : ∀ pid, Triple P (slotsOf pid) (fun vec1 w => R pid vec1 ∧ P w) E) :
    Triple P (statsReply slotsOf pids) (fun b w => (∃ encs, b = wU32 pids.length ++ encs.flatten ∧
      List.Forall₂ (EntryOf R) pids encs) ∧ P w) E := by
  refine Triple.bind (Triple.mapEach (R := EntryOf R) pids fun pid _ => ?_) fun encs => ?_
  · refine Triple.bind (h pid) fun vec1 => Triple.pure ?_
    rintro w ⟨hR, hw⟩
    exact ⟨⟨vec1, hR, rfl⟩, hw⟩
  · refine Triple.pure ?_
    rintro w ⟨hencs, hw⟩
    exact ⟨⟨encs, rfl, hencs⟩, hw⟩

/-- **An m9 reply**, whatever its category: the rule for all four branches. -/
theorem userStats_rel (req : Request)
    (h101 : paramU32 req.params 0 = 101 → ∀ pid,
      Triple P (careerSlots env pid) (fun vec1 w => R pid vec1 ∧ P w) E)
    (h102 : paramU32 req.params 0 = 102 → ∀ pid,
      Triple P (careerSlotsCat102 env pid) (fun vec1 w => R pid vec1 ∧ P w) E)
    (h201 : 201 ≤ paramU32 req.params 0 → ∀ pid,
      Triple P (baselineSlots env (paramU32 req.params 0) pid) (fun vec1 w => R pid vec1 ∧ P w) E)
    (hother : paramU32 req.params 0 ≠ 101 → paramU32 req.params 0 ≠ 102 →
      ¬ 201 ≤ paramU32 req.params 0 → ∀ pid, R pid noSlots)
    (hcash : ∀ pid, Triple P (do Act.ofExcept (index (← getCareerVec0 env pid) 5) : Srv F32)
      (fun _ => P) E) :
    Triple P (userStats env req) (fun m w => RepliesWith R req m ∧ P w) E := by
  have hanswer : ∀ {slotsOf : Nat → Srv Slots}, (∀ pid, Triple P (slotsOf pid)
      (fun vec1 w => R pid vec1 ∧ P w) E) → Triple P (do
          let body ← statsReply slotsOf (parseM9Pids req.params)
          return ok req body) (fun m w => RepliesWith R req m ∧ P w) E := by
    intro slotsOf h
    refine Triple.bind (statsReply_rel _ h) fun b => Triple.pure ?_
    rintro w ⟨⟨encs, rfl, hencs⟩, hw⟩
    exact ⟨⟨encs, rfl, hencs⟩, hw⟩
  unfold userStats
  dsimp only
  by_cases hc101 : paramU32 req.params 0 = 101
  · rw [if_pos hc101]
    refine Triple.bind (statsReply_rel _ (h101 hc101)) fun b => Triple.assume ?_
    rintro ⟨encs, rfl, hencs⟩
    -- the cash of every player is only logged
    refine Triple.bind (Triple.mapEach (R := fun _ _ => True) _ fun pid _ =>
      (hcash pid).mono (fun _ hw => hw) (fun _ _ hw => ⟨trivial, hw⟩) fun _ he => he) fun _ => ?_
    exact Triple.pure fun w hw => ⟨⟨encs, rfl, hencs⟩, hw.2⟩
  · rw [if_neg hc101]
    by_cases hc102 : paramU32 req.params 0 = 102
    · rw [if_pos hc102]
      exact hanswer (h102 hc102)
    · rw [if_neg hc102]
      by_cases hc201 : 201 ≤ paramU32 req.params 0
      · rw [if_pos hc201]
        exact hanswer (h201 hc201)
      · rw [if_neg hc201]
        exact hanswer fun pid => Triple.pure fun _ hw => ⟨hother hc101 hc102 hc201 pid, hw⟩

end
end Game

/-- The database holds `S`, and the log is `T`. -/
def Showing (S : Stats) (T : List TraceEntry) (w : World) : Prop := w.db.Holds S ∧ w.trace = T

/-- Some read fails. -/
def Flaky : Prop := ∃ n, env.readFails n = true

section
variable {S : Stats} {T : List TraceEntry}

theorem Db.read_triple : Triple (fun d => d.Holds S) (Db.read env)
    (fun t d => t.stats = S ∧ d.Holds S) fun d => Flaky env ∧ d.Holds S := by
  intro d hd
  unfold Db.read
  rw [run_get_bind, run_modify_bind]
  split
  · next hf => exact .inr ⟨_, _, rfl, ⟨d.reads, hf⟩, hd⟩
  · exact .inl ⟨_, _, rfl, hd.1, hd⟩

theorem Db.dbCon_triple : Triple (fun d => d.Holds S) (Db.dbCon env) (fun _ d => d.Holds S)
    fun d => Flaky env ∧ d.Holds S := by
  refine Triple.get_bind fun d hd => ?_
  split
  · refine Triple.pure ?_
    rintro s rfl
    exact hd
  · refine Triple.mono (P := fun d => d.Holds S) ?_ (fun s hs => hs ▸ hd) (fun _ _ h => h)
      fun _ h => h
    refine Triple.bind ?_ fun _ => Triple.modify fun _ h => h
    exact Triple.bind (Db.read_triple env) fun _ => Triple.pure fun _ h => h.2

/-- A query over the two tables, which may fail. -/
theorem useDb_flaky {α : Type} (f : Stats → α) :
    Triple (Showing S T) (Srv.useDb do
        Db.dbCon env
        let t ← Db.read env
        return f t.stats) (fun b w => b = f S ∧ Showing S T w)
      fun w => Flaky env ∧ Showing S T w := by
  refine Triple.zoom (J := fun d => d.Holds S) (K := fun b d => b = f S ∧ d.Holds S)
    (F := fun d => Flaky env ∧ d.Holds S) ?_ (fun w h => h.1)
    (fun b w d h hk => ⟨hk.1, hk.2, h.2⟩) fun w d h hd => ⟨hd.1, hd.2, h.2⟩
  refine Triple.bind (Db.dbCon_triple env) fun _ => ?_
  refine Triple.bind (Db.read_triple env) fun t => ?_
  exact Triple.pure fun d h => ⟨congrArg f h.1, h.2⟩

variable (hr : ∀ n, env.readFails n = false)
include hr

theorem useDb_triple {α : Type} (f : Stats → α) :
    Triple (Showing S T) (Srv.useDb do
        Db.dbCon env
        let t ← Db.read env
        return f t.stats) (fun b w => b = f S ∧ Showing S T w) fun _ => False := by
  refine (useDb_flaky env f).mono (fun _ h => h) (fun _ _ h => h) ?_
  rintro w ⟨⟨n, hn⟩, -⟩
  rw [hr n] at hn
  cases hn

namespace Game

theorem getCareerVec0_triple (pid : Nat) : Triple (Showing S T) (getCareerVec0 env pid)
    (fun v w => v = S.career pid ∧ Showing S T w) fun _ => False := by
  refine Triple.bind (Triple.attempt_ok (useDb_triple env hr fun S =>
    (S.1.get? pid).map Career.unpackVec0)) fun r => Triple.pure ?_
  rintro w ⟨rfl, h⟩
  refine ⟨?_, h⟩
  unfold Stats.career
  cases S.1.get? pid <;> rfl

theorem getLeaderboard_triple (pid cat : Nat) : Triple (Showing S T) (getLeaderboard env pid cat)
    (fun r w => r = S.2.get? (pid, cat) ∧ Showing S T w) fun _ => False := by
  refine Triple.bind (Triple.attempt_ok (useDb_triple env hr fun S => S.2.get? (pid, cat)))
    fun r => Triple.pure ?_
  rintro w ⟨rfl, h⟩
  exact ⟨rfl, h⟩

/-- **An m9 reply shows what is stored**, where every career has a slot 5 to log. -/
theorem userStats_triple (request : Request) (hlog : ∀ pid, ∃ x, index (S.career pid) 5 = .ok x) :
    Triple (Showing S T) (userStats env request) (fun m w => m = ok request
        (S.reply (paramU32 request.params 0) (parseM9Pids request.params)) ∧ Showing S T w)
      fun _ => False := by
  have hrel := userStats_rel (P := Showing S T) (E := fun _ => False)
    (R := fun pid vec1 => vec1 = S.slots (paramU32 request.params 0) pid) env request ?_ ?_ ?_ ?_ ?_
  · exact hrel.mono (fun _ hw => hw) (fun m w hw => ⟨hw.1.eq_of_slots, hw.2⟩) fun _ hf => hf
  · intro h101 pid
    refine Triple.bind (getCareerVec0_triple env hr pid) fun v => Triple.pure ?_
    rintro w ⟨rfl, hw⟩
    exact ⟨by simp only [Stats.slots, if_pos h101], hw⟩
  · intro h102 pid
    refine Triple.bind (getCareerVec0_triple env hr pid) fun v => Triple.pure ?_
    rintro w ⟨rfl, hw⟩
    exact ⟨by simp only [Stats.slots, if_neg (show ¬ paramU32 request.params 0 = 101 by omega),
      if_pos h102], hw⟩
  · intro h201 pid
    refine Triple.bind (getLeaderboard_triple env hr pid _) fun r => Triple.pure ?_
    rintro w ⟨rfl, hw⟩
    refine ⟨?_, hw⟩
    simp only [Stats.slots, if_neg (show ¬ paramU32 request.params 0 = 101 by omega),
      if_neg (show ¬ paramU32 request.params 0 = 102 by omega), if_pos h201]
    rfl
  · intro h101 h102 h201 pid
    simp only [Stats.slots, if_neg h101, if_neg h102, if_neg h201]
  · intro pid
    obtain ⟨x, hx⟩ := hlog pid
    refine Triple.bind (getCareerVec0_triple env hr pid) fun v => Triple.assume ?_
    rintro rfl
    exact Triple.ofExcept_ok hx fun _ hw => hw

end Game
end

end Ghostbusters
