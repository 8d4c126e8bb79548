import GhostbustersServer.Effects.Stats
import GhostbustersServer.Guarantees.Sample

/-!
# The ledger of accounts

The accounts table is a ledger: two rows of the migration, then one row for each name
that has been given a PID, in order, under consecutive PIDs.

    findOrCreateAccount_ledger     a call that raises leaves the ledger, one that returns
                                   answers with the row of its name, new or old
    accounts_allocated             so PIDs and names match over every sequence of calls
    login_pid_iff                  a Login answers with the PID of a user unless its
                                   username is one of the two of the migration
-/

namespace Ghostbusters

open Py Act

namespace Accounts

/-- The rows of the migration. -/
def seeds : List (Nat × Str) := [(1, "_server".toList), (2, "_authentication".toList)]

/-- One row for each name, under consecutive PIDs. -/
def issued (names : List Str) : List (Nat × Str) :=
  (names.zipIdx userPidStart).map fun x => (x.2, x.1)

/-- The rows of the accounts table. -/
def rows (names : List Str) : List (Nat × Str) := seeds ++ issued names

/-- Accounts and counter after `names` have been given PIDs, in this order. -/
structure Ledger (t : Tables) (names : List Str) : Prop where
  entries : t.accounts.entries = rows names
  nextPid : t.nextPid = userPidStart + names.length
  names : ((rows names).map Prod.snd).Nodup

/-! ## Rows -/

theorem issued_append (names : List Str) (s : Str) :
    issued (names ++ [s]) = issued names ++ [(userPidStart + names.length, s)] := by
  unfold issued
  rw [List.zipIdx_append, List.map_append]
  rfl

theorem rows_append (names : List Str) (s : Str) :
    rows (names ++ [s]) = rows names ++ [(userPidStart + names.length, s)] := by
  unfold rows
  rw [issued_append, List.append_assoc]

theorem map_fst_issued (names : List Str) :
    (issued names).map Prod.fst = List.range' userPidStart names.length := by
  induction names using List.reverseRecOn with
  | nil => rfl
  | append_singleton names s ih =>
    rw [issued_append, List.map_append, ih, List.length_append, List.length_singleton,
      ← List.range'_append_1]
    rfl

theorem map_fst_rows (names : List Str) :
    (rows names).map Prod.fst = [1, 2] ++ List.range' userPidStart names.length := by
  unfold rows
  rw [List.map_append, map_fst_issued]
  rfl

theorem nodup_map_fst_rows (names : List Str) : ((rows names).map Prod.fst).Nodup := by
  rw [map_fst_rows, List.nodup_append]
  refine ⟨by decide, List.nodup_range', ?_⟩
  intro a ha b hb
  have hb' := (List.mem_range'_1.mp hb).1
  have ha' : a = 1 ∨ a = 2 := by simpa using ha
  unfold userPidStart at hb'
  omega

theorem rows_mono {names names' : List Str} (h : names <+: names') {r : Nat × Str}
    (hr : r ∈ rows names) : r ∈ rows names' := by
  obtain ⟨more, rfl⟩ := h
  unfold rows issued at *
  rw [List.zipIdx_append, List.map_append, ← List.append_assoc]
  exact List.mem_append_left _ hr

/-- In a ledger a PID has one name, and a name one PID. -/
theorem Ledger.eq_iff {t : Tables} {names : List Str} (h : Ledger t names) {p q : Nat} {s s' : Str}
    (hp : (p, s) ∈ rows names) (hq : (q, s') ∈ rows names) : p = q ↔ s = s' := by
  constructor
  · intro he
    exact congrArg Prod.snd (List.inj_on_of_nodup_map (nodup_map_fst_rows names) hp hq he)
  · intro he
    exact congrArg Prod.fst (List.inj_on_of_nodup_map h.names hp hq he)

/-- `SELECT pid ... WHERE psn_id = ?`. -/
theorem Ledger.pidOf?_eq_some {t : Tables} {names : List Str} (h : Ledger t names) {s : Str}
    {p : Nat} (hp : pidOf? t s = some p) : (p, s) ∈ rows names := by
  unfold pidOf? at hp
  obtain ⟨e, he, rfl⟩ := Option.map_eq_some_iff.mp hp
  have hs : e.2 = s := by simpa using List.find?_some he
  rw [← h.entries, ← hs]
  exact List.mem_of_find?_eq_some he

theorem Ledger.pidOf?_eq_none {t : Tables} {names : List Str} (h : Ledger t names) {s : Str}
    (hs : pidOf? t s = none) : s ∉ (rows names).map Prod.snd := by
  unfold pidOf? at hs
  intro hm
  obtain ⟨e, he, rfl⟩ := List.mem_map.mp hm
  rw [← h.entries] at he
  have hall := List.find?_eq_none.mp (Option.map_eq_none_iff.mp hs) e he
  simp at hall

/-- The next row. -/
theorem Ledger.insert {t : Tables} {names : List Str} (h : Ledger t names) {s : Str}
    (hs : pidOf? t s = none) :
    ∃ t', insertAccount t.nextPid s { t with nextPid := t.nextPid + 1 } = some t' ∧
      Ledger t' (names ++ [s]) := by
  have hfresh : t.nextPid ∉ t.accounts.keys := by
    intro hm
    have hk : t.accounts.keys = [1, 2] ++ List.range' userPidStart names.length := by
      rw [← map_fst_rows, ← h.entries]
      rfl
    rw [hk, h.nextPid, List.mem_append, List.mem_range'_1] at hm
    have h12 : ¬ (userPidStart + names.length) ∈ [1, 2] := by
      unfold userPidStart
      simp
      omega
    rcases hm with hm | hm
    · exact h12 hm
    · omega
  have hget : t.accounts.get? t.nextPid = none := (Dict.get?_eq_none_iff _ _).mpr hfresh
  have hnone : pidOf? { t with nextPid := t.nextPid + 1 } s = none := hs
  refine ⟨{ t with nextPid := t.nextPid + 1, accounts := t.accounts.set t.nextPid s }, ?_, ?_⟩
  · unfold insertAccount
    rw [hnone, if_neg]
    rw [show ({ t with nextPid := t.nextPid + 1 } : Tables).accounts.get? t.nextPid = none from hget]
    simp
  · refine ⟨?_, ?_, ?_⟩
    · show (t.accounts.set t.nextPid s).entries = _
      rw [Dict.entries_set_of_fresh _ _ _ hfresh, rows_append, h.entries, h.nextPid]
    · show t.nextPid + 1 = _
      rw [h.nextPid, List.length_append]
      rfl
    · rw [rows_append, List.map_append, List.nodup_append]
      refine ⟨h.names, by simp, ?_⟩
      intro a ha b hb hab
      have hbs : b = s := by simpa using hb
      exact h.pidOf?_eq_none hs (hbs ▸ hab ▸ ha)

/-! ## One call -/

/-- Between two calls: no transaction is open. -/
def Idle (t : Tables) (d : Db) : Prop := d.tables = t ∧ d.saved = none

/-- Inside the transaction of a call that started from `t` and has made `t'` of it. -/
def Inside (t t' : Tables) (d : Db) : Prop := d.tables = t' ∧ d.saved = some t

variable (env : Env)

theorem write_inside {t t' t'' : Tables} {f : Tables → Option Tables} (hf : f t' = some t'') :
    Triple (Inside t t') (Db.write env f) (fun _ => Inside t t'') fun d => ∃ t', Inside t t' d := by
  rintro d ⟨ht, hs⟩
  rcases Db.write_cases env f d with hr | ⟨u, hu, hr⟩
  · exact .inr ⟨_, _, hr, t', ht, hs⟩
  · rw [ht, hf] at hu
    cases hu
    exact .inl ⟨(), _, hr, rfl, hs⟩

theorem allocateAccount_triple {t t' : Tables} {s : Str}
    (h : insertAccount t.nextPid s { t with nextPid := t.nextPid + 1 } = some t') :
    Triple (Inside t t) (allocateAccount env s) (fun p d => p = t.nextPid ∧ Idle t' d)
      fun d => ∃ t', Inside t t' d := by
  refine Triple.bind ((Db.read_tables env (P := Inside t t) (fun d hd => hd.1) fun d hd => hd).mono
    (fun _ hd => hd) (fun _ _ hd => hd) fun d hd => ⟨t, hd⟩) fun u => Triple.assume ?_
  rintro rfl
  refine Triple.bind (write_inside env rfl) fun _ => ?_
  refine Triple.bind (write_inside env h) fun _ => ?_
  refine Triple.bind (Q := fun _ => Idle t') ?_ fun _ => Triple.pure fun _ hd => ⟨rfl, hd⟩
  exact Triple.bind (write_inside env rfl) fun _ => Triple.modify fun d hd => ⟨hd.1, rfl⟩

/-- A statement that changes time stamps only. -/
theorem write_idle {t : Tables} :
    Triple (Idle t) (Db.write env some) (fun _ => Idle t) (Idle t) := by
  rintro d ⟨ht, hs⟩
  rcases Db.write_cases env some d with hr | ⟨u, hu, hr⟩
  · exact .inr ⟨_, _, hr, ht, hs⟩
  · cases hu
    exact .inl ⟨(), _, hr, ht, hs⟩

theorem begin_inside {t : Tables} :
    Triple (Idle t) (Db.begin env) (fun _ => Inside t t) (Idle t) := by
  refine Triple.bind (write_idle env) fun _ => Triple.get_bind ?_
  rintro d ⟨ht, hs⟩
  rw [if_neg (by rw [hs]; exact Bool.false_ne_true)]
  refine Triple.modify ?_
  rintro _ rfl
  exact ⟨ht, congrArg some ht⟩

/-- **One call**: it answers with the row of its name, and one that raises leaves accounts
and counter as they were. -/
theorem findOrCreateAccount_ledger {names : List Str} {t : Tables} (h : Ledger t names) (s : Str) :
    Triple (Idle t) (findOrCreateAccount env s)
      (fun p d => ∃ names' t', names <+: names' ∧ Ledger t' names' ∧ Idle t' d ∧ (p, s) ∈ rows names')
      (Idle t) := by
  refine Triple.bind (Db.read_tables env (P := Idle t) (fun d hd => hd.1) fun d hd => hd) fun u => ?_
  refine Triple.assume ?_
  rintro rfl
  cases hp : pidOf? u s with
  | some p =>
    refine Triple.bind (write_idle env) fun _ => Triple.pure ?_
    exact fun d hd => ⟨names, u, List.prefix_rfl, h, hd, h.pidOf?_eq_some hp⟩
  | none =>
    obtain ⟨t', ht', hl⟩ := h.insert hp
    refine Triple.bind (begin_inside env) fun _ => ?_
    refine Triple.bind (allocateAccount_triple env ht').attempt fun r => ?_
    cases r with
    | ok p =>
      refine Triple.pure ?_
      rintro d ⟨rfl, hd⟩
      refine ⟨names ++ [s], t', List.prefix_append _ _, hl, hd, ?_⟩
      rw [rows_append, h.nextPid]
      exact List.mem_append_right _ List.mem_cons_self
    | error e =>
      rintro d ⟨u', hd, hs⟩
      refine .inr ⟨e, _, rfl, ?_, rfl⟩
      show d.saved.getD d.tables = u
      rw [hs]
      rfl

/-! ## Every sequence of calls -/

def call (s : Str) (d : Db) : Db := (findOrCreateAccount env s).after d

/-- The database after the first `n` calls. -/
def database (calls : List Str) (n : Nat) : Db := runs (call env) (calls.take n) Db.migrated

/-- The PID that call `i` returned, if it did. -/
def answer (calls : List Str) (i : Nat) : Option Nat :=
  (calls[i]?).bind fun s => ((findOrCreateAccount env s).run (database env calls i)).1.toOption

/-- The ledger, and no open transaction. -/
structure Between (names : List Str) (d : Db) : Prop where
  ledger : Ledger d.tables names
  closed : d.saved = none

theorem between_migrated : Between [] Db.migrated := by
  refine ⟨⟨?_, rfl, ?_⟩, rfl⟩ <;> decide

theorem call_between {names : List Str} {d : Db} (h : Between names d) (s : Str) :
    ∃ names', names <+: names' ∧ Between names' (call env s d) ∧
      (∀ p, ((findOrCreateAccount env s).run d).1 = .ok p → (p, s) ∈ rows names') ∧
      ∀ e, ((findOrCreateAccount env s).run d).1 = .error e → (call env s d).tables = d.tables := by
  unfold call after
  rcases findOrCreateAccount_ledger env h.ledger s d ⟨rfl, h.closed⟩ with
    ⟨p, d', hr, names', t', hpre, hl, ⟨rfl, hs⟩, hp⟩ | ⟨e, d', hr, ht, hs⟩
  · rw [hr]
    refine ⟨names', hpre, ⟨hl, hs⟩, ?_, ?_⟩
    · rintro q ⟨⟩
      exact hp
    · rintro e ⟨⟩
  · rw [hr]
    refine ⟨names, List.prefix_rfl, ⟨by rw [ht]; exact h.ledger, hs⟩, ?_, fun _ _ => ht⟩
    rintro p ⟨⟩

theorem runs_between (calls : List Str) {names : List Str} {d : Db} (h : Between names d) :
    ∃ names', names <+: names' ∧ Between names' (runs (call env) calls d) := by
  induction calls generalizing names d with
  | nil => exact ⟨names, List.prefix_rfl, h⟩
  | cons s calls ih =>
    obtain ⟨names1, hpre1, h1, -⟩ := call_between env h s
    obtain ⟨names2, hpre2, h2⟩ := ih h1
    exact ⟨names2, hpre1.trans hpre2, h2⟩

theorem database_between (calls : List Str) (n : Nat) :
    ∃ names, Between names (database env calls n) := by
  obtain ⟨names, -, h⟩ := runs_between env (calls.take n) between_migrated
  exact ⟨names, h⟩

theorem database_succ {calls : List Str} {n : Nat} {s : Str} (h : calls[n]? = some s) :
    database env calls (n + 1) = call env s (database env calls n) := by
  unfold database
  rw [List.take_add_one, h, runs_append]
  rfl

/-- The database after more calls. -/
theorem database_add (calls : List Str) (n k : Nat) :
    database env calls (n + k) = runs (call env) ((calls.drop n).take k) (database env calls n) := by
  unfold database
  rw [List.take_add, runs_append]

theorem answer_eq_some {calls : List Str} {i p : Nat} (h : answer env calls i = some p) :
    ∃ s, calls[i]? = some s ∧ ((findOrCreateAccount env s).run (database env calls i)).1 = .ok p := by
  unfold answer at h
  obtain ⟨s, hs, hp⟩ := Option.bind_eq_some_iff.mp h
  refine ⟨s, hs, ?_⟩
  cases hr : ((findOrCreateAccount env s).run (database env calls i)).1 with
  | ok q =>
    rw [hr] at hp
    cases hp
    rfl
  | error e =>
    rw [hr] at hp
    cases hp

/-- PIDs are the names' own, without a gap, and a call that raises uses none up. -/
structure Allocated (calls : List Str) : Prop where
  /-- one PID for each name, one name for each PID -/
  matched : ∀ i j p q, answer env calls i = some p → answer env calls j = some q →
    (p = q ↔ calls[i]? = calls[j]?)
  /-- an answer is in the table -/
  listed : ∀ i p, answer env calls i = some p → p ∈ (database env calls (i + 1)).tables.accounts.keys
  /-- no gap below the counter -/
  dense : ∀ n, userPidStart ≤ (database env calls n).tables.nextPid ∧
    (database env calls n).tables.accounts.keys = [1, 2] ++
      List.range' userPidStart ((database env calls n).tables.nextPid - userPidStart)
  /-- a call that raises -/
  atomic : ∀ n s e, calls[n]? = some s →
    ((findOrCreateAccount env s).run (database env calls n)).1 = .error e →
    (database env calls (n + 1)).tables = (database env calls n).tables

/-- Two answers, the later one behind. -/
theorem matched_of_lt {calls : List Str} {i j p q : Nat} (hij : i < j)
    (hp : answer env calls i = some p) (hq : answer env calls j = some q) :
    p = q ↔ calls[i]? = calls[j]? := by
  obtain ⟨s, hs, hps⟩ := answer_eq_some env hp
  obtain ⟨s', hs', hqs⟩ := answer_eq_some env hq
  obtain ⟨names0, h0⟩ := database_between env calls i
  obtain ⟨names1, -, h1, hrow, -⟩ := call_between env h0 s
  rw [← database_succ env hs] at h1
  obtain ⟨names2, hpre2, h2⟩ := runs_between env ((calls.drop (i + 1)).take (j - (i + 1))) h1
  rw [← database_add, show i + 1 + (j - (i + 1)) = j by omega] at h2
  obtain ⟨names3, hpre3, h3, hrow', -⟩ := call_between env h2 s'
  have hboth := h3.ledger.eq_iff (rows_mono (hpre2.trans hpre3) (hrow p hps)) (hrow' q hqs)
  rw [hs, hs', Option.some.injEq]
  exact hboth

/-- **PIDs are allocated once**, whatever fails. -/
theorem accounts_allocated (calls : List Str) : Allocated env calls where
  matched := by
    intro i j p q hp hq
    rcases Nat.lt_trichotomy i j with hij | rfl | hij
    · exact matched_of_lt env hij hp hq
    · cases hp.symm.trans hq
      exact ⟨fun _ => rfl, fun _ => rfl⟩
    · rw [eq_comm, matched_of_lt env hij hq hp, eq_comm]
  listed := by
    intro i p hp
    obtain ⟨s, hs, hps⟩ := answer_eq_some env hp
    obtain ⟨names0, h0⟩ := database_between env calls i
    obtain ⟨names1, -, h1, hrow, -⟩ := call_between env h0 s
    rw [database_succ env hs]
    unfold Dict.keys
    rw [h1.ledger.entries]
    exact List.mem_map_of_mem (hrow p hps)
  dense := by
    intro n
    obtain ⟨names, h⟩ := database_between env calls n
    unfold Dict.keys
    rw [h.ledger.entries, h.ledger.nextPid, Nat.add_sub_cancel_left]
    exact ⟨Nat.le_add_right _ _, map_fst_rows names⟩
  atomic := by
    intro n s e hs he
    obtain ⟨names0, h0⟩ := database_between env calls n
    obtain ⟨-, -, -, -, hkeep⟩ := call_between env h0 s
    rw [database_succ env hs]
    exact hkeep e he

/-! ## Login -/

/-- The two names of the migration. -/
def serviceNames : List Str := seeds.map Prod.snd

/-- At least USER_PID_START, and none of the PIDs reserved for services. -/
def UserPid (pid : Nat) : Prop := userPidStart ≤ pid ∧ ¬ (1 ≤ pid ∧ pid ≤ 99)

instance (pid : Nat) : Decidable (UserPid pid) := inferInstanceAs (Decidable (_ ∧ _))

/-- The PID that a client reads in the answer to its Login. -/
def handedPid (answer : ResponseOK) : Nat := ofLE (slice answer.ret 4 8)

/-- The answer to a Login hands out a PID, with a cipher made for it. -/
def Hands (request : Request) (answer : ResponseOK) (pid : Nat) : Prop :=
  ∃ rand cipher key, Kerberos.buildLoginCipher env.crypto pid serverPid rand = .ok (cipher, key) ∧
    answer = { proto := Authentication.proto, method := Authentication.methodLogin
               callId := request.callId
               ret := wU32 quazalSuccess ++ wU32 pid ++ wQbuffer cipher ++
                 wQstring (Authentication.secureStationUrl env) ++ Authentication.loginTrailer }

/-- A PID that does not fit into the ticket raises. -/
theorem lt_of_buildLoginCipher {pid target : Nat} {rand : Nat → UInt8} {r : Bytes × Bytes}
    (h : Kerberos.buildLoginCipher env.crypto pid target rand = .ok r) : pid < 2 ^ 32 := by
  by_contra hge
  have herr : toBytes 4 pid = .error .overflowError := if_neg hge
  unfold Kerberos.buildLoginCipher Kerberos.buildKerbCipher at h
  obtain ⟨ticket, ht, -⟩ := ok_of_bind h
  unfold Kerberos.buildInnerTicket at ht
  rw [herr] at ht
  split at ht
  · cases ht
  · split at ht <;> cases ht

theorem Hands.handedPid_eq {request : Request} {answer : ResponseOK} {pid : Nat}
    (h : Hands env request answer pid) : handedPid answer = pid := by
  obtain ⟨rand, cipher, key, hbuild, rfl⟩ := h
  have hlt := lt_of_buildLoginCipher env hbuild
  have hread := slice_append (wU32 quazalSuccess) (wU32 pid) (wQbuffer cipher ++
    wQstring (Authentication.secureStationUrl env) ++ Authentication.loginTrailer) 4 rfl
  show ofLE (slice _ 4 8) = pid
  simp only [wU32_length, List.append_assoc] at hread ⊢
  rw [hread, ofLE_wU32 pid hlt]

theorem Ledger.userPid_iff {t : Tables} {names : List Str} (h : Ledger t names) {pid : Nat}
    {s : Str} (hr : (pid, s) ∈ rows names) : UserPid pid ↔ s ∉ serviceNames := by
  rcases List.mem_append.mp hr with hseed | hissued
  · have hname : s ∈ serviceNames := List.mem_map_of_mem (f := Prod.snd) hseed
    have hpid : pid = 1 ∨ pid = 2 := by
      simpa [seeds] using List.mem_map_of_mem (f := Prod.fst) hseed
    refine iff_of_false ?_ (not_not_intro hname)
    unfold UserPid userPidStart
    omega
  · have hpid : pid ∈ List.range' userPidStart names.length := by
      rw [← map_fst_issued]
      exact List.mem_map_of_mem (f := Prod.fst) hissued
    have hle := (List.mem_range'_1.mp hpid).1
    refine iff_of_true ?_ ?_
    · unfold UserPid
      unfold userPidStart at *
      omega
    · have hnodup := h.names
      unfold rows at hnodup
      rw [List.map_append, List.nodup_append] at hnodup
      exact fun hname => hnodup.2.2 s hname s (List.mem_map_of_mem (f := Prod.snd) hissued) rfl

def serve (request : Request) (w : World) : World := (Authentication.login env request).after w

theorem openAndFind_triple (names : List Str) (s : Str) :
    Triple (Between names) (do Db.openDb env; findOrCreateAccount env s)
      (fun p d => ∃ names', Between names' d ∧ (p, s) ∈ rows names')
      fun d => ∃ names', Between names' d := by
  have hopen : Triple (Between names) (Db.openDb env) (fun _ => Between names) (Between names) := by
    rintro d ⟨hl, hs⟩
    rcases Db.read_tables env (P := Idle d.tables) (fun d hd => hd.1) (fun d hd => hd) d ⟨rfl, hs⟩ with
      ⟨u, d', hr, -, ht, hs'⟩ | ⟨e, d', hr, ht, hs'⟩
    · exact .inl ⟨(), d', run_bind_ok hr _, by rw [ht]; exact hl, hs'⟩
    · exact .inr ⟨e, d', run_bind_error hr _, by rw [ht]; exact hl, hs'⟩
  refine Triple.bind (hopen.mono (fun _ h => h) (fun _ _ h => h) fun _ h => ⟨names, h⟩) fun _ => ?_
  rintro d ⟨hl, hs⟩
  rcases findOrCreateAccount_ledger env hl s d ⟨rfl, hs⟩ with
    ⟨p, d', hr, names', t', -, hl', ⟨rfl, hs'⟩, hp⟩ | ⟨e, d', hr, ht, hs'⟩
  · exact .inl ⟨p, d', hr, names', ⟨hl', hs'⟩, hp⟩
  · exact .inr ⟨e, d', hr, names, by rw [ht]; exact hl, hs'⟩

/-- **One Login**, answered or not. -/
theorem login_triple (names : List Str) (request : Request) :
    Triple (fun w => Between names w.db) (Authentication.login env request)
      (fun m w => ∃ names', Between names' w.db ∧ ∀ answer, m = .ok answer →
        ∃ username pid, Reader.parse Reader.qstring request.params = .ok username ∧
          (pid, username) ∈ rows names' ∧ Hands env request answer pid)
      fun w => ∃ names', Between names' w.db := by
  unfold Authentication.login withParsed
  split
  · refine Triple.pure fun w hw => ⟨names, hw, ?_⟩
    rintro answer ⟨⟩
  next username hparse =>
  dsimp only
  by_cases hempty : username = []
  · rw [if_pos hempty]
    refine Triple.pure fun w hw => ⟨names, hw, ?_⟩
    rintro answer ⟨⟩
  rw [if_neg hempty]
  refine Triple.bind (Q := fun pid w => ∃ names', Between names' w.db ∧
    (pid, username) ∈ rows names') ?_ fun pid => ?_
  · exact Triple.zoom (openAndFind_triple env names username) (fun _ hw => hw)
      (fun _ _ _ _ h => h) fun _ _ _ h => h
  refine Triple.bind (Q := fun _ w => ∃ names', Between names' w.db ∧
    (pid, username) ∈ rows names') ?_ fun rand => ?_
  · exact Triple.get_bind fun w hw => Triple.bind (Q := fun _ w => ∃ names', Between names' w.db ∧
      (pid, username) ∈ rows names') (Triple.modify fun _ h => h ▸ hw) fun _ =>
        Triple.pure fun _ h => h
  cases hbuild : Kerberos.buildLoginCipher env.crypto pid serverPid rand with
  | error e =>
    rintro w ⟨names', hb, -⟩
    exact .inr ⟨e, w, rfl, names', hb⟩
  | ok r =>
    obtain ⟨cipher, key⟩ := r
    rintro w ⟨names', hb, hrow⟩
    refine .inl ⟨_, w, rfl, names', hb, ?_⟩
    rintro answer ⟨⟩
    exact ⟨username, pid, hparse, hrow, rand, cipher, key, hbuild, rfl⟩

theorem runs_serve (history : List Request) {names : List Str} {w : World}
    (h : Between names w.db) : ∃ names', Between names' (runs (serve env) history w).db := by
  induction history generalizing names w with
  | nil => exact ⟨names, h⟩
  | cons request history ih =>
    have hone : ∃ names', Between names' (serve env request w).db := by
      unfold serve after
      rcases login_triple env names request w h with
        ⟨m, w', hr, names', hb, -⟩ | ⟨e, w', hr, names', hb⟩
      · rw [hr]
        exact ⟨names', hb⟩
      · rw [hr]
        exact ⟨names', hb⟩
    obtain ⟨names', hb⟩ := hone
    exact ih hb

/-- **Whom a Login is taken for.**  After any Logins on the migrated database, the PID that
an answered Login hands out is that of a user if and only if its username is neither of the
two that the migration has inserted. -/
theorem login_pid_iff (w : World) (hw : w.db = Db.migrated) (history : List Request)
    (request : Request) (answer : ResponseOK) (w' : World)
    (hrun : (Authentication.login env request).run (runs (serve env) history w) =
      (.ok (.ok answer), w')) :
    ∃ username, Reader.parse Reader.qstring request.params = .ok username ∧
      Hands env request answer (handedPid answer) ∧
      (UserPid (handedPid answer) ↔ username ∉ serviceNames) := by
  have hstart : Between [] w.db := by
    rw [hw]
    exact between_migrated
  obtain ⟨names, hb⟩ := runs_serve env history hstart
  rcases login_triple env names request _ hb with
    ⟨m, w1, hr, names', hb', hans⟩ | ⟨e, w1, hr, -⟩
  · cases hrun.symm.trans hr
    obtain ⟨username, pid, hparse, hrow, hhands⟩ := hans answer rfl
    have hpid := hhands.handedPid_eq
    rw [hpid]
    exact ⟨username, hparse, hhands, hb'.ledger.userPid_iff hrow⟩
  · cases hrun.symm.trans hr

/-- A Login that gets a PID from the database is answered, if the PID fits into a ticket. -/
theorem login_returns (hcr : env.crypto.Lawful) {request : Request} {w : World} {username : Str}
    (hparse : Reader.parse Reader.qstring request.params = .ok username) (hne : username ≠ [])
    {pid : Nat} {d : Db}
    (hdb : (do Db.openDb env; findOrCreateAccount env username).run w.db = (.ok pid, d))
    (hlt : pid < 2 ^ 32) :
    ∃ answer w', (Authentication.login env request).run w = (.ok (.ok answer), w') ∧
      Hands env request answer pid := by
  let rand : Nat → UInt8 := fun i => env.random (w.randomPos + i)
  obtain ⟨ticket, -, -, hbuild⟩ := @Kerberos.buildKerbCipher_eq env.crypto hcr pid serverPid
    Kerberos.loginCipherSize rand hlt (by decide) (by decide) (by decide)
  have hcipher : Kerberos.buildLoginCipher env.crypto pid serverPid rand = _ := hbuild
  unfold Authentication.login withParsed Srv.useDb Srv.random
  rw [hparse]
  dsimp only
  rw [if_neg hne, run_bind, run_zoom, hdb]
  simp only [run_bind, run_get, run_modify, run_pure, run_ofExcept]
  rw [hcipher]
  exact ⟨_, _, rfl, rand, _, _, hcipher, rfl⟩

/-- A Login request for a username. -/
def loginRequest (username : Str) : Request where
  proto := 10
  method := 1
  callId := 1
  params := wQstring username

theorem login_pid_iff_player :
    ∃ answer w', (Authentication.login Sample.env (loginRequest "player".toList)).run World.initial =
        (.ok (.ok answer), w') ∧
      ∃ username, Reader.parse Reader.qstring (loginRequest "player".toList).params = .ok username ∧
        Hands Sample.env (loginRequest "player".toList) answer (handedPid answer) ∧
        (UserPid (handedPid answer) ↔ username ∉ serviceNames) := by
  obtain ⟨answer, w', hrun, -⟩ := @login_returns Sample.env Sample.env_lawful
    (loginRequest "player".toList) World.initial "player".toList (by decide) (by decide) 10000 _ rfl
    (by decide)
  exact ⟨answer, w', hrun,
    login_pid_iff Sample.env World.initial rfl [] (loginRequest "player".toList) answer w' hrun⟩

/-- A client that calls itself `_server` is logged in as PID 1. -/
theorem service_pid_handed :
    ¬ ∀ request answer w', (Authentication.login Sample.env request).run World.initial =
      (.ok (.ok answer), w') → UserPid (handedPid answer) := by
  intro h
  obtain ⟨answer, w', hrun, hhands⟩ := @login_returns Sample.env Sample.env_lawful
    (loginRequest "_server".toList) World.initial "_server".toList (by decide) (by decide) 1 _ rfl
    (by decide)
  have huser := h _ _ _ hrun
  rw [hhands.handedPid_eq] at huser
  exact absurd huser (by decide)

end Accounts
end Ghostbusters
