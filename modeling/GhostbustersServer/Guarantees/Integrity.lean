import GhostbustersServer.Effects.Queries
import GhostbustersServer.Guarantees.Accounts
import GhostbustersServer.Guarantees.Persistence

/-!
# What is in the database

    Intact t names     the accounts are the ledger of `names`, and every career and every row
                       of a leaderboard is one that an upload stores
    Held names d       and no transaction is open
    database_intact    the database of a running server
-/

namespace Ghostbusters
namespace Integrity

open Py Act Accounts

/-- The leaderboards that uploads go to. -/
def boards : List Nat := [201, 301, 302, 303, 304, 305, 306, 307]

structure Intact (t : Tables) (names : List Str) : Prop where
  ledger : Ledger t names
  /-- a career is that of an account, in 122 floats -/
  careers : ∀ pid blob, t.careerStats.get? pid = some blob →
    (t.accounts.get? pid).isSome ∧ blob.length = 4 * Career.vec0Len
  /-- who is on a leaderboard has a career; no number is a NaN -/
  ranks : ∀ pid cat row, t.leaderboardStats.get? (pid, cat) = some row →
    (t.careerStats.get? pid).isSome ∧ cat ∈ boards ∧ Career.bindable row = true

structure Held (names : List Str) (d : Db) : Prop where
  closed : d.saved = none
  intact : Intact d.tables names

/-- What is stored stays, if with other numbers. -/
structure Grown (t t' : Tables) : Prop where
  careers : ∀ pid, (t.careerStats.get? pid).isSome → (t'.careerStats.get? pid).isSome
  ranks : ∀ k, (t.leaderboardStats.get? k).isSome → (t'.leaderboardStats.get? k).isSome

theorem Grown.refl (t : Tables) : Grown t t := ⟨fun _ h => h, fun _ h => h⟩

theorem Grown.trans {a b c : Tables} (h1 : Grown a b) (h2 : Grown b c) : Grown a c :=
  ⟨fun p h => h2.careers p (h1.careers p h), fun k h => h2.ranks k (h1.ranks k h)⟩

/-- An intact database stays intact, names are only added, and what is stored stays. -/
def Lasting (d d' : Db) : Prop :=
  ∀ names, Held names d → ∃ names', Held names' d' ∧ names <+: names' ∧ Grown d.tables d'.tables

instance : IsPreorder Db Lasting where
  refl := fun _ names h => ⟨names, h, List.prefix_rfl, .refl _⟩
  trans := by
    intro a b c h1 h2 names h
    obtain ⟨names1, hb, hpre1, hg1⟩ := h1 names h
    obtain ⟨names2, hc, hpre2, hg2⟩ := h2 names1 hb
    exact ⟨names2, hc, hpre1.trans hpre2, hg1.trans hg2⟩

theorem Lasting.of_same {d d' : Db} (ht : d'.tables = d.tables) (hs : d'.saved = d.saved) :
    Lasting d d' := by
  intro names h
  refine ⟨names, ⟨hs.trans h.closed, ?_⟩, List.prefix_rfl, ?_⟩
  · rw [ht]
    exact h.intact
  · rw [ht]
    exact .refl _

/-! ## An upload -/

theorem mem_boards_of_rows {vec0 : List F32} {vec1 : Option (List F32)}
    {rows : List (Nat × LeaderboardRow)} (h : Game.computeLeaderboardRows vec0 vec1 = .ok rows) :
    ∀ row ∈ rows, row.1 ∈ boards := by
  unfold Game.computeLeaderboardRows at h
  cases vec1 with
  | none =>
    cases h
    simp
  | some v1 =>
    dsimp only at h
    split at h
    · -- the six modes, and the cash board
      obtain ⟨blocks, hblocks, h⟩ := ok_of_bind h
      cases h
      have hcats : blocks.map Prod.fst = Game.instantBlockCat.map Prod.snd := by
        apply eq_map_of_forall₂
        rw [List.forall₂_map_right_iff]
        refine (forall₂_of_mapM hblocks).imp fun block row hrow => ?_
        obtain ⟨r, rfl, -⟩ := Store.blockRow_ok hrow
        rfl
      have hall : ∀ cat ∈ Game.instantBlockCat.map Prod.snd, cat ∈ boards := by decide
      intro row hrow
      rcases List.mem_append.mp hrow with hrow | hrow
      · exact hall row.1 (hcats ▸ List.mem_map_of_mem hrow)
      · rw [List.mem_singleton.mp hrow]
        exact List.mem_cons_of_mem _ List.mem_cons_self
    · split at h
      · cases h
        simp [boards]
      · cases h
        simp

section
variable {t t' : Tables} {names : List Str} {pid : Nat}

theorem Intact.putCareer (h : Intact t names) {vec0 : List F32}
    (hp : Career.putCareer pid (Career.packVec0 vec0) t = some t') :
    Intact t' names ∧ (t'.careerStats.get? pid).isSome ∧ Grown t t' := by
  unfold Career.putCareer at hp
  split at hp
  · cases hp
  · next hacc =>
    cases hp
    have hkeep : ∀ p, (t.careerStats.get? p).isSome →
        ((t.careerStats.set pid (Career.packVec0 vec0)).get? p).isSome := by
      intro p hp
      rw [Dict.get?_set]
      split
      · rfl
      · exact hp
    refine ⟨⟨⟨h.ledger.entries, h.ledger.nextPid, h.ledger.names⟩, ?_, ?_⟩, ?_, hkeep, fun _ h => h⟩
    · intro p blob hb
      change (t.careerStats.set pid (Career.packVec0 vec0)).get? p = some blob at hb
      rw [Dict.get?_set] at hb
      split at hb
      · next he =>
        cases hb
        rw [he]
        refine ⟨?_, SparkStats.packVec0_length vec0⟩
        rw [Option.isSome_iff_ne_none]
        exact fun hn => hacc (by rw [hn]; rfl)
      · exact h.careers p blob hb
    · intro p cat row hr
      obtain ⟨hc, hcat, hbind⟩ := h.ranks p cat row hr
      exact ⟨hkeep p hc, hcat, hbind⟩
    · show ((t.careerStats.set pid (Career.packVec0 vec0)).get? pid).isSome
      rw [Dict.get?_set, if_pos rfl]
      rfl

theorem Intact.putLeaderboard (h : Intact t names) (hc : (t.careerStats.get? pid).isSome) {cat : Nat}
    {row : LeaderboardRow} (hcat : cat ∈ boards) (hp : Career.putLeaderboard pid cat row t = some t') :
    Intact t' names ∧ (t'.careerStats.get? pid).isSome ∧ Grown t t' := by
  unfold Career.putLeaderboard at hp
  split at hp
  · cases hp
  · next hacc =>
    cases hp
    rw [not_or] at hacc
    refine ⟨⟨⟨h.ledger.entries, h.ledger.nextPid, h.ledger.names⟩, h.careers, ?_⟩, hc, fun _ h => h, ?_⟩
    · intro p c r hr
      change (t.leaderboardStats.set (pid, cat) row).get? (p, c) = some r at hr
      rw [Dict.get?_set] at hr
      split at hr
      · next he =>
        cases hr
        cases he
        exact ⟨hc, hcat, by simpa using hacc.1⟩
      · exact h.ranks p c r hr
    · intro k hk
      show ((t.leaderboardStats.set (pid, cat) row).get? k).isSome
      rw [Dict.get?_set]
      split
      · rfl
      · exact hk

end

variable (env : Env)

/-- A statement of the transaction of an upload. -/
theorem write_transact {t0 : Tables} {P Q : Tables → Prop} {f : Tables → Option Tables}
    (h : ∀ t t', P t → f t = some t' → Q t') :
    Triple (fun d => P d.tables ∧ d.saved = some t0) (Db.write env f)
      (fun _ d => Q d.tables ∧ d.saved = some t0) fun d => d.saved = some t0 := by
  rintro d ⟨hp, hs⟩
  rcases Db.write_cases env f d with hr | ⟨t, ht, hr⟩
  · exact .inr ⟨_, _, hr, hs⟩
  · exact .inl ⟨(), _, hr, h _ t hp ht, hs⟩

theorem writeMatch_intact {names : List Str} {t0 : Tables} (h : Intact t0 names) (pid : Nat)
    (vec0 : List F32) {rows : List (Nat × LeaderboardRow)} (hrows : ∀ row ∈ rows, row.1 ∈ boards) :
    Triple (Persistence.Stored t0 (some t0)) (Game.writeMatch env pid vec0 rows)
      (fun _ d => (Intact d.tables names ∧ Grown t0 d.tables) ∧ d.saved = none)
      fun d => d.saved = some t0 := by
  let P : Tables → Prop := fun t => Intact t names ∧ (t.careerStats.get? pid).isSome ∧ Grown t0 t
  have hcareer : Triple (Persistence.Stored t0 (some t0)) (Career.upsertCareer env pid vec0)
      (fun _ d => P d.tables ∧ d.saved = some t0) fun d => d.saved = some t0 :=
    write_transact env (P := (· = t0)) fun t t' ht hp => by
      subst ht
      exact h.putCareer hp
  -- the career comes first, so whoever gets a row has one
  have hboards := Triple.forEach (E := fun d : Db => d.saved = some t0)
    (I := fun _ d => P d.tables ∧ d.saved = some t0)
    (f := fun row : Nat × LeaderboardRow => Career.upsertLeaderboard env pid row.1 row.2) rows
    (fun _ row hrow => write_transact env fun t t' hP hp => by
      obtain ⟨hi, hc, hg⟩ := hP
      obtain ⟨hi', hc', hg'⟩ := hi.putLeaderboard hc (hrows row hrow) hp
      exact ⟨hi', hc', hg.trans hg'⟩) []
  refine Triple.bind hcareer fun _ => Triple.bind hboards fun _ => ?_
  refine Triple.bind (write_transact env (Q := P) fun t t' hP ht => ?_) fun _ => ?_
  · cases ht
    exact hP
  · exact Triple.modify fun d hd => ⟨⟨hd.1.1, hd.1.2.2⟩, rfl⟩

theorem matchTransaction_lasting (pid : Nat) {vec0 : List F32} {rows : List (Nat × LeaderboardRow)}
    (hrows : ∀ row ∈ rows, row.1 ∈ boards) :
    Within Lasting (Game.matchTransaction env pid vec0 rows) := by
  intro d names h
  have hspec : Triple (Persistence.Stored d.tables none) (Game.matchTransaction env pid vec0 rows)
      (fun _ d' => (Intact d'.tables names ∧ Grown d.tables d'.tables) ∧ d'.saved = none)
      (Persistence.Stored d.tables none) := by
    rw [Persistence.matchTransaction_eq]
    refine Triple.bind (Persistence.dbCon_stored env d.tables none) fun _ => ?_
    exact Triple.transact (Q := fun _ t' => Intact t' names ∧ Grown d.tables t')
      (Persistence.begin_stored env d.tables) (writeMatch_intact env h.intact pid vec0 hrows)
      fun d hd => Persistence.rollback_stored d hd
  show ∃ names', _
  rcases hspec d ⟨rfl, h.closed⟩ with ⟨u, d', hr, ⟨hi, hg⟩, hs⟩ | ⟨e, d', hr, ht, hs⟩
  · rw [hr]
    exact ⟨names, ⟨hs, hi⟩, List.prefix_rfl, hg⟩
  · rw [hr]
    exact Lasting.of_same ht (hs.trans h.closed.symm) names h

/-! ## An account -/

theorem Ledger.isSome_mono {t t' : Tables} {names names' : List Str} (h : Ledger t names)
    (h' : Ledger t' names') (hpre : names <+: names') {pid : Nat} (hp : (t.accounts.get? pid).isSome) :
    (t'.accounts.get? pid).isSome := by
  obtain ⟨s, hs⟩ := Option.isSome_iff_exists.mp hp
  have hin : (pid, s) ∈ rows names' := by
    refine rows_mono hpre ?_
    rw [← h.entries]
    exact (Dict.get?_eq_some_iff _ _ _).mp hs
  rw [← h'.entries] at hin
  rw [(Dict.get?_eq_some_iff _ _ _).mpr hin]
  rfl

/-- A call that touches the accounts only, and only adds to them. -/
theorem Held.of_accounts {names names' : List Str} {d d' : Db} (h : Held names d)
    (hpre : names <+: names') (hb : Between names' d') (hk : d.Kept d') :
    Held names' d' ∧ Grown d.tables d'.tables := by
  have hstats : d'.tables.stats = d.tables.stats :=
    (hk d.tables.stats ⟨rfl, fun t ht => by rw [h.closed] at ht; cases ht⟩).1
  have hcareers : d'.tables.careerStats = d.tables.careerStats := congrArg Prod.fst hstats
  have hranks : d'.tables.leaderboardStats = d.tables.leaderboardStats := congrArg Prod.snd hstats
  refine ⟨⟨hb.closed, hb.ledger, ?_, ?_⟩, ?_, ?_⟩
  · intro pid blob hblob
    rw [hcareers] at hblob
    obtain ⟨hacc, hlen⟩ := h.intact.careers pid blob hblob
    exact ⟨Ledger.isSome_mono h.intact.ledger hb.ledger hpre hacc, hlen⟩
  · intro pid cat row hrow
    rw [hranks] at hrow
    rw [hcareers]
    exact h.intact.ranks pid cat row hrow
  · rw [hcareers]
    exact fun _ hp => hp
  · rw [hranks]
    exact fun _ hp => hp

theorem account_lasting (name : Str) :
    Within Lasting (do Db.openDb env; findOrCreateAccount env name) := by
  intro d names h
  have hcall := Triple.bind (Persistence.openDb_stored env d.tables none) fun _ =>
    findOrCreateAccount_ledger env h.intact.ledger name
  have hin : Db.Call env (do Db.openDb env; findOrCreateAccount env name) := .account name
  have hkept := hin.kept d
  show ∃ names', _
  change d.Kept ((do Db.openDb env; findOrCreateAccount env name : Act Db Exc Nat).run d).2 at hkept
  rcases hcall d ⟨rfl, h.closed⟩ with ⟨p, d', hr, names', t', hpre, hl, ⟨rfl, hs⟩, -⟩ | ⟨e, d', hr, ht, hs⟩
  · rw [hr] at hkept ⊢
    obtain ⟨hheld, hgrown⟩ := h.of_accounts hpre ⟨hl, hs⟩ hkept
    exact ⟨names', hheld, hpre, hgrown⟩
  · rw [hr]
    exact Lasting.of_same ht (hs.trans h.closed.symm) names h

/-! ## Every call -/

/-- What only reads. -/
theorem read_same : Within (Fixes fun d : Db => (d.tables, d.saved)) (Db.read env) := by
  refine Within.bind Within.get fun d => Within.bind (Within.modify fun _ => rfl) fun _ => ?_
  split
  · exact Within.raise _
  · exact Within.pure _

theorem dbCon_same : Within (Fixes fun d : Db => (d.tables, d.saved)) (Db.dbCon env) := by
  refine Within.bind Within.get fun d => ?_
  split
  · exact Within.pure _
  · refine Within.bind (Within.bind (read_same env) fun _ => Within.pure _) fun _ => ?_
    exact Within.modify fun _ => rfl

theorem call_lasting {α : Type} {m : Act Db Exc α} (h : Db.Call env m) : Within Lasting m := by
  have hsame : ∀ {β : Type} {m : Act Db Exc β}, Within (Fixes fun d : Db => (d.tables, d.saved)) m →
      Within Lasting m := fun hm =>
    hm.mono fun _ _ hd => .of_same (congrArg Prod.fst hd) (congrArg Prod.snd hd)
  cases h with
  | account name => exact account_lasting env name
  | career pid =>
    exact hsame (Within.bind (dbCon_same env) fun _ => Within.bind (read_same env) fun _ => Within.pure _)
  | board pid cat =>
    exact hsame (Within.bind (dbCon_same env) fun _ => Within.bind (read_same env) fun _ => Within.pure _)
  | ranked cat =>
    exact hsame (Within.bind (dbCon_same env) fun _ => Within.bind (read_same env) fun _ => Within.pure _)
  | connect => exact hsame (dbCon_same env)
  | name pid => exact hsame (Within.bind (read_same env) fun _ => Within.pure _)
  | cash pid =>
    refine hsame (Within.bind (dbCon_same env) fun _ => ?_)
    refine Within.bind (Within.bind ?_ fun v => ?_) fun _ => Within.pure _
    · exact Within.bind (read_same env) fun _ => Within.pure _
    · cases v <;> exact Within.pure _

theorem step_lasting (e : Event) (w : World) : Lasting w.db (step env e w).db :=
  step_db env (call_lasting env)
    (fun pid _ _ _ h => matchTransaction_lasting env pid (mem_boards_of_rows h)) e w

theorem held_migrated : Held [] Db.migrated where
  closed := rfl
  intact :=
    { ledger := between_migrated.ledger
      careers := fun _ _ h => by cases h
      ranks := fun _ _ _ h => by cases h }

/-- **The database of a running server**, whichever statements fail and whatever clients send:
no transaction is open between two events; the accounts are those of the migration and one for
each name, under consecutive PIDs; a career is that of an account and has 122 floats, and a row
of a leaderboard is one of a player with a career, without a NaN.  No name is lost, and no
career and no row, as the run goes on. -/
theorem database_intact (w0 : World) (h0 : w0.db = Db.migrated) (es more : List Event) :
    ∃ names names', Held names (runs (step env) es w0).db ∧
      Held names' (runs (step env) (es ++ more) w0).db ∧ names <+: names' ∧
      Grown (runs (step env) es w0).db.tables (runs (step env) (es ++ more) w0).db.tables := by
  have hrun : ∀ fs (w : World), Lasting w.db (runs (step env) fs w).db := fun fs w =>
    runs_rel (R := OnDb Lasting) (refl_of (OnDb Lasting)) (fun _ _ _ => trans_of (OnDb Lasting))
      (step_lasting env) fs w
  obtain ⟨names, hes, -, -⟩ := hrun es w0 [] (h0 ▸ held_migrated)
  obtain ⟨names', hmore, hpre, hgrown⟩ := hrun more (runs (step env) es w0) names hes
  rw [← runs_append] at hmore hgrown
  exact ⟨names, names', hes, hmore, hpre, hgrown⟩

/-- A client gets an account. -/
def visit : List Event :=
  [.packet .auth (Sample.remote 1) Sample.syn,
   .packet .auth (Sample.remote 1) (Sample.connect []),
   .packet .auth (Sample.remote 1) (Sample.data 1 10 1 (wQstring "ray".toList))]

theorem database_intact_visit : ∃ names names', Held names (runs (step Sample.env) visit World.initial).db ∧
    Held names' (runs (step Sample.env) (visit ++ visit) World.initial).db ∧ names <+: names' ∧
    Grown (runs (step Sample.env) visit World.initial).db.tables
      (runs (step Sample.env) (visit ++ visit) World.initial).db.tables :=
  database_intact Sample.env World.initial rfl visit visit

end Integrity
end Ghostbusters
