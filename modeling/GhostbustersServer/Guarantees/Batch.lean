import GhostbustersServer.Guarantees.Capacity

/-!
# Whom a stats batch waits for

Beside the server runs an observer that keeps, for each lobby, the players that were
in it when its lock last went on, and who has sent a report since.

    Faithful R S g     the batch of `g` still waits for the players of `R` not in `S`

The snapshot of the expected reporters is taken only when none are expected.  So the
batch waits for the roster of the match as long as the set is empty, or is the roster,
whenever the lock goes on, and nobody of the roster comes back into a lobby that has
stopped waiting for them.
-/

namespace Ghostbusters

open Py PRUDPServer

namespace Batch

/-! ## One lobby -/

structure Faithful (roster sent : Finset Nat) (g : Gathering) : Prop where
  empty : g.expectedM12Pids = ∅ → g.receivedM12Pids = ∅
  waits : g.expectedM12Pids ≠ ∅ → ∀ pid ∈ roster, pid ∈ g.pids →
    pid ∈ sent ∨ (pid ∈ g.expectedM12Pids ∧ pid ∉ g.receivedM12Pids)
  reported : ∀ pid ∈ roster, pid ∈ g.receivedM12Pids → pid ∈ sent

section
variable {roster sent : Finset Nat} {g g' : Gathering}

/-- The same batch, in a lobby without some of its players. -/
theorem Faithful.of_batch (h : Faithful roster sent g) (hb : g'.batch = g.batch)
    (hp : ∀ pid ∈ g'.pids, pid ∈ g.pids) : Faithful roster sent g' := by
  have he : g'.expectedM12Pids = g.expectedM12Pids := congrArg (·.1) hb
  have hr : g'.receivedM12Pids = g.receivedM12Pids := congrArg (·.2.1) hb
  refine ⟨?_, ?_, ?_⟩
  · rw [he, hr]
    exact h.empty
  · rw [he, hr]
    exact fun hne pid hm hin => h.waits hne pid hm (hp pid hin)
  · rw [hr]
    exact h.reported

/-- A player joins that the batch waits for, or need not wait for. -/
theorem Faithful.join (h : Faithful roster sent g) (hb : g'.batch = g.batch) (joiner : Nat)
    (hp : ∀ pid ∈ g'.pids, pid = joiner ∨ pid ∈ g.pids)
    (hj : joiner ∈ roster → joiner ∉ sent →
      g.expectedM12Pids = ∅ ∨ joiner ∈ g.expectedM12Pids) : Faithful roster sent g' := by
  have he : g'.expectedM12Pids = g.expectedM12Pids := congrArg (·.1) hb
  have hr : g'.receivedM12Pids = g.receivedM12Pids := congrArg (·.2.1) hb
  refine ⟨?_, ?_, ?_⟩
  · rw [he, hr]
    exact h.empty
  · rw [he, hr]
    intro hne pid hm hin
    by_cases hsent : pid ∈ sent
    · exact .inl hsent
    rcases hp pid hin with rfl | hin
    · refine .inr ⟨(hj hm hsent).resolve_left hne, ?_⟩
      exact fun hrec => hsent (h.reported pid hm hrec)
    · exact h.waits hne pid hm hin
  · rw [hr]
    exact h.reported

/-- More reports have been sent. -/
theorem Faithful.mono {sent' : Finset Nat} (h : Faithful roster sent g) (hs : sent ⊆ sent') :
    Faithful roster sent' g where
  empty := h.empty
  waits := fun hne pid hm hin => (h.waits hne pid hm hin).imp_left (@hs pid)
  reported := fun pid hm hr => hs (h.reported pid hm hr)

theorem Faithful.snapshot (h : Faithful roster sent g) : Faithful roster sent (Game.snapshot g) := by
  unfold Game.snapshot
  split
  · refine ⟨fun _ => rfl, ?_, ?_⟩
    · intro _ pid _ hin
      exact .inr ⟨List.mem_toFinset.mpr hin, Finset.notMem_empty pid⟩
    · intro pid _ hr
      exact absurd hr (Finset.notMem_empty pid)
  · exact h

/-- A report of a player who is expected, or at least has sent one. -/
theorem Faithful.addReport {pid : Nat} (h : Faithful roster sent g) (hs : pid ∈ sent)
    (hne : g.expectedM12Pids ≠ ∅) : Faithful roster sent (Game.addReport pid g) := by
  refine ⟨fun he => absurd he hne, ?_, ?_⟩
  · intro _ p hm hin
    by_cases hp : p = pid
    · exact .inl (hp ▸ hs)
    · refine (h.waits hne p hm hin).imp_right fun ⟨h1, h2⟩ => ⟨h1, ?_⟩
      show p ∉ insert pid g.receivedM12Pids
      rw [Finset.mem_insert]
      rintro (he | hr)
      · exact hp he
      · exact h2 hr
  · intro p hm hr
    rcases Finset.mem_insert.mp hr with rfl | hr
    · exact hs
    · exact h.reported p hm hr

theorem faithful_cleared (he : g.expectedM12Pids = ∅) (hr : g.receivedM12Pids = ∅) :
    Faithful roster sent g where
  empty := fun _ => hr
  waits := fun hne => absurd he hne
  reported := by
    intro pid _ hm
    rw [hr] at hm
    exact absurd hm (Finset.notMem_empty pid)

/-- The lock goes on, over a batch that waits for nobody or for everybody. -/
theorem Faithful.lock (h : Faithful roster sent g)
    (hk : g.expectedM12Pids = ∅ ∨
      ∀ pid ∈ g.pids, pid ∈ g.expectedM12Pids ∧ pid ∉ g.receivedM12Pids) :
    Faithful g.pids.toFinset ∅ g := by
  rcases hk with he | hall
  · exact faithful_cleared he (h.empty he)
  · refine ⟨h.empty, fun _ pid _ hin => .inr (hall pid hin), ?_⟩
    intro pid hm hr
    exact absurd hr (hall pid (List.mem_toFinset.mp hm)).2

theorem expected_snapshot_ne_empty {pid : Nat} (h : pid ∈ g.pids) :
    (Game.snapshot g).expectedM12Pids ≠ ∅ := by
  unfold Game.snapshot
  split
  · exact Finset.ne_empty_of_mem (List.mem_toFinset.mpr h)
  · next hne => exact hne

end

/-! ## The observer -/

/-- By lobby: its players when the lock last went on, and who has sent a report since. -/
structure Ghost where
  roster : Nat → Finset Nat
  sent : Nat → Finset Nat

def Ghost.empty : Ghost := ⟨fun _ => ∅, fun _ => ∅⟩

/-- The lock of a lobby goes on. -/
def Ghost.lock (G : Ghost) (gid : Nat) (players : Finset Nat) : Ghost where
  roster := Function.update G.roster gid players
  sent := Function.update G.sent gid ∅

def Ghost.report (G : Ghost) (pid : Nat) : Ghost :=
  { G with sent := fun gid => insert pid (G.sent gid) }

variable (env : Env)

/-- The lobby that a CloseParticipation turns from open to closed. -/
def locks (w : World) (req : Request) : Option Gathering :=
  if req.proto = 60 ∧ req.method = 19 ∧ leadingGid req ≠ 0 then
    (w.lobby.get (leadingGid req)).filter fun g => !g.closed
  else none

/-- What the observer notes of an event. -/
def observe (e : Event) (w : World) (G : Ghost) : Ghost :=
  match requestOf env w e with
  | none => G
  | some (_, c, req) =>
    match locks w req with
    | some g => G.lock (leadingGid req) g.pids.toFinset
    | none =>
      if req.proto = 60 ∧ req.method = 12 ∧ req.params ≠ [] then G.report (w.heap c).userPid else G

def track (e : Event) (s : World × Ghost) : World × Ghost :=
  (step env e s.1, observe env e s.1 s.2)

/-- **The condition.**  Where a lock goes on, the lobby expects nobody, or all of its
players and has no report of theirs; and no player that it locked with and who has not
reported joins it while it expects others only. -/
def Steady (e : Event) (s : World × Ghost) : Prop :=
  ∀ port c req, requestOf env s.1 e = some (port, c, req) →
    (∀ g, locks s.1 req = some g → g.expectedM12Pids = ∅ ∨
      ∀ pid ∈ g.pids, pid ∈ g.expectedM12Pids ∧ pid ∉ g.receivedM12Pids) ∧
    (req.proto = 60 → req.method = 5 → ∀ g, Game.admitted s.1 (s.1.heap c).userPid req = some g →
      (s.1.heap c).userPid ∈ s.2.roster g.id → (s.1.heap c).userPid ∉ s.2.sent g.id →
      g.expectedM12Pids = ∅ ∨ (s.1.heap c).userPid ∈ g.expectedM12Pids)

instance (e : Event) (s : World × Ghost) : Decidable (Steady env e s) :=
  decidable_of_iff (∀ r ∈ requestOf env s.1 e,
      (∀ g ∈ locks s.1 r.2.2, g.expectedM12Pids = ∅ ∨
        ∀ pid ∈ g.pids, pid ∈ g.expectedM12Pids ∧ pid ∉ g.receivedM12Pids) ∧
      (r.2.2.proto = 60 → r.2.2.method = 5 →
        ∀ g ∈ Game.admitted s.1 (s.1.heap r.2.1).userPid r.2.2,
          (s.1.heap r.2.1).userPid ∈ s.2.roster g.id → (s.1.heap r.2.1).userPid ∉ s.2.sent g.id →
            g.expectedM12Pids = ∅ ∨ (s.1.heap r.2.1).userPid ∈ g.expectedM12Pids))
    ⟨fun h port c req hreq => h (port, c, req) hreq, fun h r hr => h r.1 r.2.1 r.2.2 hr⟩

/-- **The property of one event**: a batch fired because all have reported has waited
for every player the lobby locked with that is still in it. -/
def Honest (e : Event) (s : World × Ghost) : Prop :=
  ∀ new, (step env e s.1).trace = s.1.trace ++ new → ∀ gid players,
    .statsBatch gid .allReported players ∈ new →
    ∀ pid ∈ (observe env e s.1 s.2).roster gid, pid ∈ players →
      pid ∈ (observe env e s.1 s.2).sent gid

/-- **The invariant.** -/
structure Inv (l : Lobby) (G : Ghost) : Prop where
  indexed : l.registry.WellIndexed
  fresh : ∀ gid, l.registry.gatheringIdSeq ≤ gid → G.roster gid = ∅
  faithful : ∀ gid g, l.get gid = some g → Faithful (G.roster gid) (G.sent gid) g

theorem locks_eq_some {w : World} {req : Request} {g : Gathering} (h : locks w req = some g) :
    req.proto = 60 ∧ req.method = 19 ∧ w.lobby.get (leadingGid req) = some g := by
  unfold locks at h
  split at h
  · next hc => exact ⟨hc.1, hc.2.1, (Option.filter_eq_some_iff.mp h).1⟩
  · cases h

/-- The observer's notes fit the lobbies before the event has changed them. -/
theorem Inv.observe {e : Event} {w : World} {G : Ghost} (h : Inv w.lobby G)
    (hs : Steady env e (w, G)) : Inv w.lobby (observe env e w G) := by
  unfold Batch.observe
  split
  · exact h
  · next port c req hreq =>
    split
    · next g hl =>
      obtain ⟨-, -, hg⟩ := locks_eq_some hl
      refine ⟨h.indexed, ?_, ?_⟩
      · intro gid hle
        show Function.update G.roster (leadingGid req) g.pids.toFinset gid = ∅
        rw [Function.update_of_ne]
        · exact h.fresh gid hle
        · rintro rfl
          exact absurd (h.indexed.lt hg) (Nat.not_lt.mpr hle)
      · intro gid g' hg'
        by_cases heq : gid = leadingGid req
        · subst heq
          cases hg.symm.trans hg'
          simp only [Ghost.lock, Function.update_self]
          exact (h.faithful _ g hg).lock ((hs port c req hreq).1 g hl)
        · simp only [Ghost.lock, Function.update_of_ne heq]
          exact h.faithful gid g' hg'
    · split
      · refine ⟨h.indexed, h.fresh, ?_⟩
        intro gid g hg
        exact (h.faithful gid g hg).mono (Finset.subset_insert _ _)
      · exact h

/-! ## Every move -/

/-- One lobby is edited. -/
theorem Inv.edit {l l' : Lobby} {G : Ghost} (h : Inv l G) (hi : l'.registry.WellIndexed)
    (hs : l.registry.gatheringIdSeq ≤ l'.registry.gatheringIdSeq) (gid : Nat)
    (f : Gathering → Gathering)
    (hget : ∀ k, l'.get k = if k = gid then (l.get gid).map f else l.get k)
    (hf : ∀ g, l.get gid = some g → Faithful (G.roster gid) (G.sent gid) (f g)) : Inv l' G := by
  refine ⟨hi, fun k hk => h.fresh k (hs.trans hk), ?_⟩
  intro k g' hk
  rw [hget] at hk
  split at hk
  · next he =>
    subst he
    obtain ⟨g, hg, rfl⟩ := Option.map_eq_some_iff.mp hk
    exact hf g hg
  · exact h.faithful k g' hk

theorem Inv.update {l : Lobby} {G : Ghost} (h : Inv l G) (gid : Nat) (f : Gathering → Gathering)
    (hid : ∀ g, (f g).id = g.id ∧ (f g).ownerPid = g.ownerPid)
    (hf : ∀ g, Faithful (G.roster gid) (G.sent gid) g → Faithful (G.roster gid) (G.sent gid) (f g)) :
    Inv (l.update gid f) G :=
  h.edit (Lobby.WellIndexed.update h.indexed gid f hid) (Nat.le_refl _) gid f
    (fun k => l.get_update gid k f) fun g hg => hf g (h.faithful gid g hg)

theorem Inv.disarm {l : Lobby} {G : Ghost} (h : Inv l G) (gid : Nat) : Inv (l.disarm gid) G :=
  h.edit (Lobby.WellIndexed.disarm h.indexed gid) (Nat.le_of_eq (l.seq_disarm gid).symm) gid _
    (l.get_disarm gid) fun g hg => by
      obtain ⟨h1, h2, h3⟩ := h.faithful gid g hg
      exact ⟨h1, h2, h3⟩

theorem Inv.fire {l : Lobby} {G : Ghost} (h : Inv l G) (gid : Nat) (clear : Bool) :
    Inv (l.fire gid clear) G := by
  unfold Lobby.fire
  split
  · exact (h.disarm gid).update gid _ (fun _ => ⟨rfl, rfl⟩) fun _ _ => faithful_cleared rfl rfl
  · exact h.disarm gid

theorem Inv.arm {l : Lobby} {G : Ghost} (h : Inv l G) (port : Port) (gid : Nat) :
    Inv (l.arm port gid) G := by
  refine h.edit (Lobby.WellIndexed.arm h.indexed port gid)
    (Nat.le_of_eq (l.seq_arm port gid).symm) gid _ (l.get_arm port gid) ?_
  intro g hg
  split
  · exact h.faithful gid g hg
  · obtain ⟨h1, h2, h3⟩ := h.faithful gid g hg
    exact ⟨h1, h2, h3⟩

/-- A report that has been sent is in. -/
theorem Inv.addReport {l : Lobby} {G : Ghost} (h : Inv l G) {g : Gathering} {pid : Nat}
    (hg : Game.senderGathering l pid = some g) (hs : ∀ gid, pid ∈ G.sent gid) :
    Inv (l.addReport g.id pid) G := by
  have hget : l.get g.id = some g := Game.get_of_senderGathering h.indexed hg
  refine h.edit (Lobby.WellIndexed.addReport h.indexed g.id pid) (Nat.le_refl _) g.id _
    (Game.get_addReport l g.id pid) ?_
  intro g' hg'
  cases hget.symm.trans hg'
  exact (h.faithful _ g hget).snapshot.addReport (hs _)
    (expected_snapshot_ne_empty (Game.mem_pids_of_senderGathering hg))

theorem Inv.report {l : Lobby} {G : Ghost} (h : Inv l G) (port : Port) {pid : Nat}
    (arm clear : Bool) (hs : ∀ gid, pid ∈ G.sent gid) : Inv (l.report port pid arm clear) G := by
  unfold Lobby.report
  split
  · exact h
  · next g hg =>
    have hr := h.addReport hg hs
    split
    · exact hr
    · split
      · exact hr.fire g.id clear
      · split
        · exact hr.arm port g.id
        · exact hr

theorem Inv.expire {l : Lobby} {G : Ghost} (h : Inv l G) (id : TimerId) (clear : Bool) :
    Inv (l.expire id clear) G := by
  unfold Lobby.expire
  split
  · exact h
  · next t _ =>
    have hf : Inv (l.forget id) G := ⟨h.indexed, h.fresh, h.faithful⟩
    unfold Lobby.timedOut
    split
    · exact hf
    · split
      · refine hf.update t.gatheringId _ (fun _ => ⟨rfl, rfl⟩) ?_
        rintro g ⟨h1, h2, h3⟩
        exact ⟨h1, h2, h3⟩
      · exact hf.fire t.gatheringId clear

theorem Inv.apply {l : Lobby} {G : Ghost} (h : Inv l G) (op : LobbyOp)
    (hreport : ∀ port pid arm clear, op = .report port pid arm clear → ∀ gid, pid ∈ G.sent gid)
    (hjoin : ∀ gid pid name remote conn, op = .join gid pid name remote conn → ∀ g,
      l.get gid = some g → pid ∈ G.roster gid → pid ∉ G.sent gid →
        g.expectedM12Pids = ∅ ∨ pid ∈ g.expectedM12Pids) : Inv (op.apply l) G := by
  have hi := op.wellIndexed_apply l h.indexed
  have hs := op.seq_le_apply l
  cases op with
  | idle => exact h
  | create pid remote raw conn =>
    refine ⟨hi, fun k hk => h.fresh k (hs.trans hk), ?_⟩
    intro k g' hk
    change (l.registry.create pid remote raw (some conn)).2.get k = some g' at hk
    rw [GatheringRegistry.get_create _ h.indexed] at hk
    split at hk
    · next he =>
      cases hk
      exact faithful_cleared rfl rfl
    · split at hk
      · cases hk
      · exact h.faithful k g' hk
  | join gid pid name remote conn =>
    refine h.edit hi hs gid _
      (GatheringRegistry.get_addParticipant l.registry gid pid name remote (some conn)) ?_
    intro g hg
    refine (h.faithful gid g hg).join rfl pid ?_ (hjoin gid pid name remote conn rfl g hg)
    intro p hp
    unfold Gathering.pids at hp
    rw [GatheringRegistry.pids_joined] at hp
    split at hp
    · exact .inr hp
    · exact (List.mem_append.mp hp).symm.imp_left List.mem_singleton.mp
  | leave gid pid =>
    refine h.edit hi hs gid _ (GatheringRegistry.get_removeParticipant l.registry gid pid) ?_
    intro g hg
    exact (h.faithful gid g hg).of_batch rfl fun p hp => (List.filter_sublist.map _).subset hp
  | destroy gid =>
    refine ⟨hi, fun k hk => h.fresh k (hs.trans hk), ?_⟩
    intro k g' hk
    change (l.registry.destroy gid).2.get k = some g' at hk
    rw [GatheringRegistry.get_destroy] at hk
    split at hk
    · cases hk
    · exact h.faithful k g' hk
  | close gid =>
    have hclosed : Inv (l.mapRegistry fun reg => (reg.setClosed gid true).2) G := by
      refine h.edit (h.indexed.setClosed gid true)
        (RegistryOp.seq_apply (.setClosed gid true) l.registry) gid _
        (GatheringRegistry.get_setClosed l.registry gid true) ?_
      intro g hg
      exact (h.faithful gid g hg).of_batch rfl fun _ hp => hp
    exact hclosed.update gid _ Lobby.snapshot_same fun _ hg => hg.snapshot
  | reopen gid =>
    refine h.edit hi hs gid _ (GatheringRegistry.get_setClosed l.registry gid false) ?_
    intro g hg
    exact (h.faithful gid g hg).of_batch rfl fun _ hp => hp
  | report port pid arm clear => exact h.report port arm clear (hreport port pid arm clear rfl)
  | cancel gid =>
    exact (h.disarm gid).update gid _ (fun _ => ⟨rfl, rfl⟩) fun _ _ => faithful_cleared rfl rfl
  | expire id clear => exact h.expire id clear
  | gone remotes =>
    refine ⟨hi, fun k hk => h.fresh k (hs.trans hk), ?_⟩
    intro k g' hk
    obtain ⟨g, hg, -, rfl⟩ := (Lobby.get_gone h.indexed remotes k g').mp hk
    exact (h.faithful k g hg).of_batch rfl fun p hp => (List.filter_sublist.map _).subset hp

/-! ## Every run -/

theorem observe_of_request {e : Event} {w : World} {G : Ghost} {port : Port} {c : ConnId}
    {req : Request} (hreq : requestOf env w e = some (port, c, req)) (hm : req.method ≠ 19) :
    Batch.observe env e w G = if req.proto = 60 ∧ req.method = 12 ∧ req.params ≠ [] then
      G.report (w.heap c).userPid else G := by
  have hl : locks w req = none := by
    cases h : locks w req with
    | none => rfl
    | some g => exact absurd (locks_eq_some h).2.1 hm
  unfold Batch.observe
  rw [hreq]
  simp only [hl]

theorem step_inv {e : Event} {w : World} {G : Ghost} (hs : Steady env e (w, G))
    (h : Inv w.lobby G) : Inv (step env e w).lobby (Batch.observe env e w G) := by
  obtain ⟨op, hp, hop⟩ := step_lobby env e h.indexed
  rw [hop]
  refine (h.observe env hs).apply op ?_ ?_
  · rintro port pid arm clear rfl gid
    cases hp with
    | @request port' c req _ hreq hperf =>
      cases hperf with
      | report _ h1 h2 h3 hc =>
        rw [observe_of_request env hreq (by omega), if_pos ⟨h1, h2, h3⟩]
        exact Finset.mem_insert_self _ _
  · rintro gid pid name remote conn rfl g hg hin hnot
    cases hp with
    | @request port c req _ hreq hperf =>
      cases hperf with
      | join g0 h1 h2 hadm =>
        rw [observe_of_request env hreq (by omega), if_neg (by omega)] at hin hnot
        have hget := (Game.admitted_eq_some hadm).1
        have hid : g0.id = leadingGid req := h.indexed.ids _ _ hget
        rw [hid] at hg
        cases hget.symm.trans hg
        exact (hs port conn req hreq).2 h1 h2 g hadm hin hnot

/-- A batch for which all have reported is fired by a report. -/
theorem step_batches (e : Event) {w : World} (hi : w.lobby.registry.WellIndexed) :
    LogGrows (fun x => ∀ gid players, x = .statsBatch gid .allReported players →
      ∃ port c req, requestOf env w e = some (port, c, req) ∧ RequestLog w c req x)
      w (step env e w) := by
  refine (step_log env e hi).mono ?_
  rintro x hx gid players rfl
  cases hx with
  | send h => exact h.elim
  | request hreq h => exact ⟨_, _, _, hreq, h⟩
  | timer _ h =>
    rcases h with (h | ⟨pid, vec0, rows, h⟩) | ⟨gid', roster, h⟩
    · exact h.elim
    · cases h
    · cases h

theorem step_honest {e : Event} {w : World} {G : Ghost} (hs : Steady env e (w, G))
    (h : Inv w.lobby G) : Honest env e (w, G) := by
  intro new hnew gid players hm pid hin hplayer
  obtain ⟨new', hnew', hall⟩ := step_batches env e h.indexed
  have hsame : new = new' := List.append_cancel_left (hnew.symm.trans hnew')
  rw [hsame] at hm
  obtain ⟨port, c, req, hreq, hcalm | ⟨h1, h2, h3, hcalm | ⟨g, hg, hsub, he⟩⟩⟩ :=
    hall _ hm gid players rfl
  · rcases hcalm with hcalm | ⟨_, _, _, hcalm⟩
    · exact hcalm.elim
    · cases hcalm
  · rcases hcalm with hcalm | ⟨_, _, _, hcalm⟩
    · exact hcalm.elim
    · cases hcalm
  · cases he
    -- the sender's report is the last the lobby has waited for
    have hsent : ∀ k, (w.heap c).userPid ∈ (Batch.observe env e w G).sent k := by
      intro k
      rw [observe_of_request env hreq (by omega), if_pos ⟨h1, h2, h3⟩]
      exact Finset.mem_insert_self _ _
    have hf := (h.observe env hs).faithful _ g (Game.get_of_senderGathering h.indexed hg)
    have hne := expected_snapshot_ne_empty (Game.mem_pids_of_senderGathering hg)
    have hr : Faithful _ _ (Game.reported g (w.heap c).userPid) :=
      hf.snapshot.addReport (hsent _) hne
    have hp : pid ∈ (Game.reported g (w.heap c).userPid).pids := by
      rw [Game.pids_reported]
      exact hplayer
    rcases hr.waits hne pid hin hp with hdone | ⟨hexp, hnot⟩
    · exact hdone
    · exact absurd (hsub hexp) hnot

/-- **The batch waits for the roster of the match** in every step of a run, from a
server without lobbies, whose steps meet the condition. -/
theorem batch_waits (w : World) (hw : w.lobby = Lobby.empty) (es : List Event)
    (hs : Guarded (track env) (Steady env) es (w, Ghost.empty)) :
    Guarded (track env) (Honest env) es (w, Ghost.empty) := by
  refine guarded_of_invariant (I := fun s => Inv s.1.lobby s.2) (fun e s hC hI => step_inv env hC hI)
    (fun e s hC hI => step_honest env hC hI) es (w, Ghost.empty) hs ?_
  show Inv w.lobby Ghost.empty
  rw [hw]
  refine ⟨GatheringRegistry.WellIndexed.empty, fun _ _ => rfl, ?_⟩
  intro gid g hg
  cases hg

/-- A match of two players. -/
def played : List Event :=
  [.packet .secure (Sample.remote 1) (Sample.data 1 60 4 []),
   .packet .secure (Sample.remote 2) (Sample.data 1 60 5 (wU32 10000)),
   .packet .secure (Sample.remote 1) (Sample.data 2 60 19 (wU32 10000)),
   .packet .secure (Sample.remote 1) (Sample.data 3 60 12 [0]),
   .packet .secure (Sample.remote 2) (Sample.data 2 60 12 [0])]

def players : World :=
  Sample.world [Sample.connection .secure 1 10000, Sample.connection .secure 2 10001]

theorem batch_waits_played :
    .statsBatch 10000 .allReported [10000, 10001] ∈ (runs (step Sample.env) played players).trace ∧
      Guarded (track Sample.env) (Honest Sample.env) played (players, Ghost.empty) :=
  ⟨by decide +kernel, batch_waits Sample.env players rfl played (by decide +kernel)⟩

/-- The host locks the lobby alone, opens it, and locks it again with a guest. -/
def relocked : List Event :=
  [.packet .secure (Sample.remote 1) (Sample.data 1 60 4 []),
   .packet .secure (Sample.remote 1) (Sample.data 2 60 19 (wU32 10000)),
   .packet .secure (Sample.remote 1) (Sample.data 3 60 23 (wU32 10000)),
   .packet .secure (Sample.remote 2) (Sample.data 1 60 5 (wU32 10000)),
   .packet .secure (Sample.remote 1) (Sample.data 4 60 19 (wU32 10000))]

def hostReport : Event := .packet .secure (Sample.remote 1) (Sample.data 5 60 12 [0])

/-- The batch fires on the host's report, and the guest has sent none. -/
theorem guest_not_waited_for :
    ¬ Guarded (track Sample.env) (Honest Sample.env) (relocked ++ [hostReport])
      (players, Ghost.empty) := by
  intro h
  rw [guarded_append] at h
  generalize hs : runs (track Sample.env) relocked (players, Ghost.empty) = s at h
  have hlast : Honest Sample.env hostReport s := h.2.1
  have hrun : (step Sample.env hostReport s.1).trace =
        s.1.trace ++ (step Sample.env hostReport s.1).trace.drop s.1.trace.length ∧
      .statsBatch 10000 .allReported [10000, 10001] ∈
        (step Sample.env hostReport s.1).trace.drop s.1.trace.length ∧
      10001 ∈ (observe Sample.env hostReport s.1 s.2).roster 10000 ∧
      10001 ∉ (observe Sample.env hostReport s.1 s.2).sent 10000 := by
    rw [← hs]
    decide +kernel
  obtain ⟨hnew, hfired, hroster, hsilent⟩ := hrun
  exact hsilent (hlast _ hnew 10000 _ hfired 10001 hroster
    (List.mem_cons_of_mem 10000 List.mem_cons_self))

end Batch
end Ghostbusters
