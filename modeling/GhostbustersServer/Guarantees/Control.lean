import GhostbustersServer.Effects.Moves
import GhostbustersServer.Guarantees.Timers

/-!
# Who controls a lobby

DestroyGathering looks who asks.  CloseParticipation, OpenParticipation and EndGame take the
lobby from the request and look at nothing else.

    LeftAlone ..      what a request of somebody else may make of a host's lobby
    Meddles ..        the requests that make more of it
    control_iff       in every run, the requests leave the lobbies of others alone exactly
                      when none of them meddles
-/

namespace Ghostbusters

open Py PRUDPServer

namespace Control

/-! ## Moves about another lobby -/

/-- The timers that the event loop holds for a lobby. -/
def timersOf (l : Lobby) (k : Nat) : List Timer := l.timers.filter fun t => t.gatheringId == k

/-- A lobby's handle belongs to none but its own timer. -/
theorem timersOf_disarm {l : Lobby} (h : Timers.Clock l) {gid k : Nat} (hne : k ≠ gid) :
    timersOf (l.disarm gid) k = timersOf l k := by
  unfold Lobby.disarm
  cases hg : l.get gid with
  | none => rfl
  | some g =>
    show (l.timers.filter _).filter _ = l.timers.filter _
    rw [List.filter_filter]
    refine List.filter_congr fun t ht => ?_
    by_cases hk : t.gatheringId = k
    · have hother : g.m12TimeoutHandle ≠ some t.id := by
        intro hh
        obtain ⟨t', ht', hid, hgid⟩ := h.armed gid g t.id hg hh
        rw [h.eq_of_id ht' ht hid] at hgid
        exact hne (hk.symm.trans hgid)
      rw [bne_iff_ne.mpr hother, Bool.and_true]
    · rw [beq_eq_false_iff_ne.mpr hk, Bool.false_and]

theorem timersOf_arm (l : Lobby) (port : Port) {gid k : Nat} (hne : k ≠ gid) :
    timersOf (l.arm port gid) k = timersOf l k := by
  unfold Lobby.arm
  split
  · rfl
  · split
    · rfl
    · show (l.timers ++ [_]).filter _ = l.timers.filter _
      rw [List.filter_append, List.filter_cons_of_neg, List.filter_nil, List.append_nil]
      simpa using hne.symm

theorem timersOf_fire {l : Lobby} (h : Timers.Clock l) {gid k : Nat} (hne : k ≠ gid)
    (clear : Bool) : timersOf (l.fire gid clear) k = timersOf l k := by
  unfold Lobby.fire
  split
  · exact timersOf_disarm h hne
  · exact timersOf_disarm h hne

/-- A move that names another lobby. -/
theorem timersOf_apply_of_ne {l : Lobby} (h : Timers.Clock l) {op : LobbyOp} {gid k : Nat}
    (hop : op.named = some gid) (hne : k ≠ gid) : timersOf (op.apply l) k = timersOf l k := by
  cases op with
  | idle => rfl
  | create => rfl
  | join => rfl
  | leave => rfl
  | destroy => rfl
  | close => rfl
  | reopen => rfl
  | report => cases hop
  | expire => cases hop
  | gone => cases hop
  | cancel =>
    cases hop
    exact timersOf_disarm h hne

section
variable {l : Lobby} {pid k : Nat} (hother : ∀ g, Game.senderGathering l pid = some g → k ≠ g.id)
include hother

/-- A report is about the lobby of its sender. -/
theorem timersOf_report (h : Timers.Clock l) (port : Port) (arm clear : Bool) :
    timersOf (l.report port pid arm clear) k = timersOf l k := by
  unfold Lobby.report
  split
  · rfl
  · next g hg =>
    have hne := hother g hg
    split
    · rfl
    · split
      · exact timersOf_fire (h.addReport g.id pid) hne clear
      · split
        · exact timersOf_arm _ port hne
        · rfl

end

theorem any_pid_iff (g : Gathering) (pid : Nat) :
    (g.participants.any fun p => p.pid == pid) = true ↔ pid ∈ g.pids := by
  rw [List.any_eq_true]
  unfold Gathering.pids
  simp only [beq_iff_eq, List.mem_map]

/-- The lobby of an EndGame is named in it, or the sender is in it. -/
theorem endGameTarget_eq_some {l : Lobby} {pid : Nat} {req : Request} {g : Gathering}
    (h : Game.endGameTarget l pid req = some g) :
    (leadingGid req ≠ 0 ∧ l.get (leadingGid req) = some g) ∨ pid ∈ g.pids := by
  unfold Game.endGameTarget at h
  simp only at h
  split at h
  · next g' hg =>
    cases h
    split at hg
    · cases hg
    · next h0 => exact .inl ⟨h0, hg⟩
  · have hmem := List.mem_of_mem_head? h
    unfold GatheringRegistry.findGatheringsContainingPid at hmem
    exact .inr ((any_pid_iff g pid).mp (List.mem_filter.mp hmem).2)

theorem get_of_endGameTarget {l : Lobby} (hl : l.registry.WellIndexed) {pid : Nat} {req : Request}
    {g : Gathering} (h : Game.endGameTarget l pid req = some g) : l.get g.id = some g := by
  have hlisted : ∃ k, l.get k = some g := by
    unfold Game.endGameTarget at h
    simp only at h
    split at h
    · next g' hg =>
      cases h
      split at hg
      · cases hg
      · exact ⟨_, hg⟩
    · have hmem := List.mem_of_mem_head? h
      unfold GatheringRegistry.findGatheringsContainingPid at hmem
      exact (l.registry.mem_allGatherings_iff g).mp (List.mem_filter.mp hmem).1
  obtain ⟨k, hk⟩ := hlisted
  rw [hl.ids k g hk]
  exact hk

/-- A lobby that has its expected set, or has nobody to expect. -/
theorem snapshot_eq_self {g : Gathering}
    (h : ¬ (g.expectedM12Pids = ∅ ∧ (g.pids ≠ [] ∨ g.receivedM12Pids ≠ ∅))) :
    Game.snapshot g = g := by
  unfold Game.snapshot
  split
  · next he =>
    have hrest : ¬ (g.pids ≠ [] ∨ g.receivedM12Pids ≠ ∅) := fun hr => h ⟨he, hr⟩
    rw [not_or, not_not, not_not] at hrest
    have hplayers : g.pids.toFinset = g.expectedM12Pids := by
      rw [hrest.1, he]
      rfl
    rw [hplayers, ← hrest.2]
  · rfl

/-! ## What the others may do -/

/-- A JoinGathering that is let into the lobby. -/
def Accepted (w : World) (c : ConnId) (req : Request) (g : Gathering) : Prop :=
  req.proto = 60 ∧ req.method = 5 ∧ Game.admitted w (w.heap c).userPid req = some g

/-- The lobby `g` of a host, as `g'`, after a request of connection `c`. -/
structure LeftAlone (w : World) (c : ConnId) (req : Request) (l' : Lobby) (g g' : Gathering) :
    Prop where
  closed : g'.closed = g.closed
  rawParams : g'.rawParams = g.rawParams
  ownerPid : g'.ownerPid = g.ownerPid
  hostConn : g'.hostConn = g.hostConn
  batch : (w.heap c).userPid ∉ g.pids → g'.batch = g.batch
  timers : (w.heap c).userPid ∉ g.pids → timersOf l' g.id = timersOf w.lobby g.id
  players : (w.heap c).userPid ∉ g.pids → g'.participants = g.participants ∨
    (Accepted w c req g ∧ g'.participants = GatheringRegistry.joined g.participants
      (w.heap c).userPid (pidName (w.heap c).userPid) (w.heap c).remote (some c))

/-- The requests that do more to a lobby, whoever sends them: they close an open one, or
give a closed one whose batch is empty a new batch, open a closed one, or cancel a batch. -/
def Meddles (pid : Nat) (req : Request) (g : Gathering) : Prop :=
  req.proto = 60 ∧ leadingGid req = g.id ∧ g.id ≠ 0 ∧
    ((req.method = 19 ∧ (g.closed = false ∨ (pid ∉ g.pids ∧ g.expectedM12Pids = ∅ ∧
        (g.pids ≠ [] ∨ g.receivedM12Pids ≠ ∅)))) ∨
      (req.method = 23 ∧ g.closed = true) ∨
      (req.method = 15 ∧ pid ∉ g.pids ∧
        (g.m12TimeoutHandle.isSome ∨ g.expectedM12Pids ≠ ∅)))

variable (env : Env)

/-- A request leaves alone every lobby whose owner has not sent it. -/
def HostControls (e : Event) (w : World) : Prop :=
  ∀ r ∈ requestOf env w e, ∀ gid g, w.lobby.get gid = some g →
    (w.heap r.2.1).userPid ≠ g.ownerPid → ∃ g', (step env e w).lobby.get gid = some g' ∧
      LeftAlone w r.2.1 r.2.2 (step env e w).lobby g g'

def NoMeddling (e : Event) (w : World) : Prop :=
  ∀ r ∈ requestOf env w e, ∀ gid g, w.lobby.get gid = some g →
    (w.heap r.2.1).userPid ≠ g.ownerPid → ¬ Meddles (w.heap r.2.1).userPid r.2.2 g

section
variable {e : Event} {w : World} {port : Port} {c : ConnId} {req : Request} {gid : Nat}
  {g : Gathering}

theorem LeftAlone.self {l' : Lobby} (ht : timersOf l' g.id = timersOf w.lobby g.id) :
    LeftAlone w c req l' g g :=
  ⟨rfl, rfl, rfl, rfl, fun _ => rfl, fun _ => ht, fun _ => .inl rfl⟩

/-- A lobby that differs in its batch at most, and only for a player. -/
theorem LeftAlone.of_unbatched {l' : Lobby} {g' : Gathering} (hin : (w.heap c).userPid ∈ g.pids)
    (h : g'.unbatched = g.unbatched) : LeftAlone w c req l' g g' where
  closed := (congrArg Gathering.closed h :)
  rawParams := (congrArg Gathering.rawParams h :)
  ownerPid := (congrArg Gathering.ownerPid h :)
  hostConn := (congrArg Gathering.hostConn h :)
  batch := fun hn => absurd hin hn
  timers := fun hn => absurd hin hn
  players := fun hn => absurd hin hn

/-- The lobby is still there, and left alone. -/
def Stays (w : World) (c : ConnId) (req : Request) (l' : Lobby) (gid : Nat) (g : Gathering) : Prop :=
  ∃ g', l'.get gid = some g' ∧ LeftAlone w c req l' g g'

section
variable (hw : w.lobby.registry.WellIndexed) (hg : w.lobby.get gid = some g)
include hw hg

theorem stays_of_same {l' : Lobby} (hget : l'.get gid = some g)
    (ht : timersOf l' gid = timersOf w.lobby gid) : Stays w c req l' gid g :=
  ⟨g, hget, LeftAlone.self (by rw [hw.ids gid g hg]; exact ht)⟩

/-- A move about another lobby. -/
theorem stays_of_ne (hc : Timers.Clock w.lobby) {op : LobbyOp} {k : Nat} (hop : op.named = some k)
    (hne : gid ≠ k) : Stays w c req (op.apply w.lobby) gid g := by
  refine stays_of_same hw hg ?_ (timersOf_apply_of_ne hc hop hne)
  rw [Lobby.get_apply_of_ne hop hne]
  exact hg

theorem stays_create (hne : (w.heap c).userPid ≠ g.ownerPid) (raw : Bytes) :
    Stays w c req ((LobbyOp.create (w.heap c).userPid (w.heap c).remote raw c).apply w.lobby) gid g := by
  refine stays_of_same hw hg ?_ rfl
  show (w.lobby.registry.create _ _ _ (some c)).2.get gid = _
  have howner : w.lobby.registry.ownerOf gid ≠ some (w.heap c).userPid := by
    rw [ne_eq, GatheringRegistry.ownerOf_eq_some_iff]
    rintro ⟨g', hg', ho⟩
    cases hg'.symm.trans hg
    exact hne ho.symm
  rw [GatheringRegistry.get_create _ hw, if_neg (Nat.ne_of_lt (hw.lt hg)), if_neg howner]
  exact hg

omit hw in
theorem stays_leave :
    Stays w c req ((LobbyOp.leave gid (w.heap c).userPid).apply w.lobby) gid g := by
  have hget := GatheringRegistry.get_removeParticipant w.lobby.registry gid (w.heap c).userPid gid
  rw [if_pos rfl, show w.lobby.registry.get gid = some g from hg] at hget
  refine ⟨_, hget, rfl, rfl, rfl, rfl, fun _ => rfl, fun _ => rfl, ?_⟩
  exact fun hin => .inl (g.participants_without hin)

/-- The lock of a closed lobby goes on, by a player or over a batch that stays the same. -/
theorem stays_close (hclosed : g.closed = true)
    (hbatch : (w.heap c).userPid ∉ g.pids →
      ¬ (g.expectedM12Pids = ∅ ∧ (g.pids ≠ [] ∨ g.receivedM12Pids ≠ ∅))) :
    Stays w c req ((LobbyOp.close gid).apply w.lobby) gid g := by
  have hget := Lobby.get_close w.lobby gid gid
  rw [if_pos rfl, hg, Option.map_some] at hget
  have hclose : { g with closed := true } = g := by rw [← hclosed]
  rw [hclose] at hget
  by_cases hin : (w.heap c).userPid ∈ g.pids
  · exact ⟨_, hget, .of_unbatched hin (Lobby.unbatched_snapshot g)⟩
  · rw [snapshot_eq_self (hbatch hin)] at hget
    exact stays_of_same hw hg hget rfl

theorem stays_reopen (hopen : g.closed = false) :
    Stays w c req ((LobbyOp.reopen gid).apply w.lobby) gid g := by
  have hget := GatheringRegistry.get_setClosed w.lobby.registry gid false gid
  have hsame : { g with closed := false } = g := by rw [← hopen]
  rw [if_pos rfl, show w.lobby.registry.get gid = some g from hg, Option.map_some, hsame] at hget
  exact stays_of_same hw hg hget rfl

theorem stays_report (hc : Timers.Clock w.lobby) (port : Port) (arm clear : Bool) :
    Stays w c req ((LobbyOp.report port (w.heap c).userPid arm clear).apply w.lobby) gid g := by
  by_cases hin : (w.heap c).userPid ∈ g.pids
  · have hview := Lobby.SameButBatches.report w.lobby port (w.heap c).userPid arm clear gid
    rw [hg, Option.map_some] at hview
    obtain ⟨g', hg', he⟩ := Option.map_eq_some_iff.mp hview
    exact ⟨g', hg', .of_unbatched hin he⟩
  · have hother : ∀ g', Game.senderGathering w.lobby (w.heap c).userPid = some g' → gid ≠ g'.id := by
      rintro g' hs rfl
      cases hg.symm.trans (Game.get_of_senderGathering hw hs)
      exact hin (Game.mem_pids_of_senderGathering hs)
    exact stays_of_same hw hg ((Game.get_report_of_ne hother port arm clear).trans hg)
      (timersOf_report hother hc port arm clear)

omit hw in
/-- A batch is cancelled by a player. -/
theorem stays_cancel (hin : (w.heap c).userPid ∈ g.pids) :
    Stays w c req ((LobbyOp.cancel gid).apply w.lobby) gid g := by
  have hget := Lobby.get_cancel w.lobby gid gid
  rw [if_pos rfl, hg, Option.map_some] at hget
  exact ⟨_, hget, .of_unbatched hin rfl⟩

end

/-- An EndGame cancels a batch only if there is one. -/
theorem stays_end (hw : w.lobby.registry.WellIndexed) (hreq : requestOf env w e = some (port, c, req))
    (hg : w.lobby.get g.id = some g) (h1 : req.proto = 60) (h2 : req.method = 15)
    (ht : Game.endGameTarget w.lobby (w.heap c).userPid req = some g)
    (hpeace : ¬ Meddles (w.heap c).userPid req g) :
    Stays w c req (step env e w).lobby g.id g := by
  rw [step_end env hreq h1 h2]
  unfold Game.ended
  rw [ht]
  dsimp only
  split
  · next hb =>
    refine stays_cancel hg ?_
    by_contra hout
    rcases endGameTarget_eq_some ht with ⟨h0, hnamed⟩ | hin
    · have hlead := hw.ids _ _ hnamed
      exact hpeace ⟨h1, hlead.symm, by rw [hlead]; exact h0, .inr (.inr ⟨h2, hout, hb⟩)⟩
    · exact hout hin
  · exact stays_of_same hw hg hg rfl

/-- **A request that does not meddle.** -/
theorem leftAlone_of_peaceful (hw : w.lobby.registry.WellIndexed) (hc : Timers.Clock w.lobby)
    (hreq : requestOf env w e = some (port, c, req)) (hg : w.lobby.get gid = some g)
    (hne : (w.heap c).userPid ≠ g.ownerPid) (hpeace : ¬ Meddles (w.heap c).userPid req g) :
    Stays w c req (step env e w).lobby gid g := by
  have hid : g.id = gid := hw.ids gid g hg
  obtain ⟨op, hp, hop⟩ := step_performs env hreq hw
  cases hp with
  | idle =>
    rw [hop]
    exact stays_of_same hw hg hg rfl
  | create h1 h2 =>
    rw [hop]
    exact stays_create hw hg hne req.params
  | join g1 h1 h2 hadm =>
    by_cases hk : gid = g1.id
    · subst hk
      cases hg.symm.trans (Game.get_of_admitted hw hadm)
      refine ⟨_, get_step_join env hreq hw h1 h2 hadm, ?_⟩
      refine ⟨rfl, rfl, rfl, rfl, fun _ => rfl, fun _ => ?_, fun _ => .inr ⟨⟨h1, h2, hadm⟩, rfl⟩⟩
      rw [hop]
      rfl
    · rw [hop]
      exact stays_of_ne hw hg hc rfl hk
  | leave h1 h2 =>
    rw [hop]
    by_cases hk : gid = leadingGid req
    · rw [← hk]
      exact stays_leave hg
    · exact stays_of_ne hw hg hc rfl hk
  | destroy g1 h1 h2 hg1 hown =>
    rw [hop]
    refine stays_of_ne hw hg hc rfl ?_
    rintro rfl
    cases hg1.symm.trans hg
    exact hne hown
  | close h1 h2 h0 =>
    rw [hop]
    by_cases hk : gid = leadingGid req
    · rw [← hk]
      have hcalm : ¬ (g.closed = false ∨ ((w.heap c).userPid ∉ g.pids ∧
          g.expectedM12Pids = ∅ ∧ (g.pids ≠ [] ∨ g.receivedM12Pids ≠ ∅))) := fun h =>
        hpeace ⟨h1, by rw [hid, hk], by rw [hid, hk]; exact h0, .inl ⟨h2, h⟩⟩
      rw [not_or, Bool.not_eq_false] at hcalm
      exact stays_close hw hg hcalm.1 fun hin h => hcalm.2 ⟨hin, h⟩
    · exact stays_of_ne hw hg hc rfl hk
  | reopen h1 h2 h0 =>
    rw [hop]
    by_cases hk : gid = leadingGid req
    · rw [← hk]
      refine stays_reopen hw hg ?_
      rw [← Bool.not_eq_true]
      intro h
      exact hpeace ⟨h1, by rw [hid, hk], by rw [hid, hk]; exact h0, .inr (.inl ⟨h2, h⟩)⟩
    · exact stays_of_ne hw hg hc rfl hk
  | report clear h1 h2 h3 hf =>
    rw [hop]
    exact stays_report hw hg hc port env.loopRunning clear
  | cancel g1 h1 h2 ht =>
    by_cases hk : gid = g1.id
    · subst hk
      cases hg.symm.trans (get_of_endGameTarget hw ht)
      exact stays_end env hw hreq hg h1 h2 ht hpeace
    · rw [hop]
      exact stays_of_ne hw hg hc rfl hk

/-- **A request that meddles.** -/
theorem not_leftAlone_of_meddles (hw : w.lobby.registry.WellIndexed)
    (hreq : requestOf env w e = some (port, c, req)) (hg : w.lobby.get gid = some g)
    (hm : Meddles (w.heap c).userPid req g) {g' : Gathering}
    (hg' : (step env e w).lobby.get gid = some g') :
    ¬ LeftAlone w c req (step env e w).lobby g g' := by
  have hid : g.id = gid := hw.ids gid g hg
  obtain ⟨h1, hlead, h0, hmethod⟩ := hm
  have hlead0 : leadingGid req ≠ 0 := by rwa [hlead]
  have hk : gid = leadingGid req := by rw [hlead, hid]
  intro halone
  rcases hmethod with ⟨h2, hclose⟩ | ⟨h2, hclosed⟩ | ⟨h2, hout, hb⟩
  · rw [step_close env hreq h1 h2 hlead0, Lobby.get_close, if_pos hk, ← hk, hg] at hg'
    cases hg'
    rcases hclose with hopen | ⟨hout, he, hgain⟩
    · have hsame := halone.closed
      rw [Game.snapshot_closed, hopen] at hsame
      cases hsame
    · have hbatch : (Game.snapshot { g with closed := true }).batch = g.batch := halone.batch hout
      have hsnap : Game.snapshot { g with closed := true } =
          { g with closed := true, expectedM12Pids := g.pids.toFinset, receivedM12Pids := ∅ } :=
        if_pos he
      rw [hsnap] at hbatch
      unfold Gathering.batch at hbatch
      rw [he, Prod.mk.injEq, Prod.mk.injEq] at hbatch
      obtain ⟨hp, hr, -⟩ := hbatch
      rcases hgain with hp' | hr'
      · exact hp' (List.toFinset_eq_empty_iff _ |>.mp hp)
      · exact hr' hr.symm
  · rw [step_reopen env hreq h1 h2 hlead0] at hg'
    change (w.lobby.registry.setClosed (leadingGid req) false).2.get gid = some g' at hg'
    rw [GatheringRegistry.get_setClosed, if_pos hk, ← hk,
      show w.lobby.registry.get gid = some g from hg] at hg'
    cases hg'
    have hsame := halone.closed
    rw [hclosed] at hsame
    cases hsame
  · have htarget : Game.endGameTarget w.lobby (w.heap c).userPid req = some g := by
      unfold Game.endGameTarget
      simp only [if_neg hlead0]
      rw [← hk, hg]
    rw [step_end env hreq h1 h2] at hg'
    unfold Game.ended at hg'
    rw [htarget] at hg'
    simp only [if_pos hb] at hg'
    rw [Lobby.get_cancel, if_pos hid.symm, hid, hg] at hg'
    cases hg'
    have hbatch := halone.batch hout
    unfold Game.clearBatch Gathering.batch at hbatch
    rw [Prod.mk.injEq, Prod.mk.injEq] at hbatch
    obtain ⟨he, -, hh⟩ := hbatch
    rcases hb with hsome | hne
    · rw [← hh] at hsome
      cases hsome
    · exact hne he.symm

end

/-- **Only the host controls a lobby, exactly as long as nobody meddles.**  In every run from
a server without lobbies. -/
theorem control_iff (w : World) (hl : w.lobby = Lobby.empty) (es : List Event) :
    Guarded (step env) (HostControls env) es w ↔ Guarded (step env) (NoMeddling env) es w := by
  refine guarded_congr (I := fun w => w.lobby.registry.WellIndexed ∧ Timers.Clock w.lobby)
    ?_ ?_ es w ?_
  · rintro e w ⟨hw, hc⟩
    obtain ⟨op, -, hop⟩ := step_lobby env e hw
    refine ⟨step_indexed env e hw, ?_⟩
    rw [hop]
    exact hc.apply op hw
  · rintro e w ⟨hw, hc⟩
    constructor
    · rintro hhost ⟨port, c, req⟩ hreq gid g hg hne hm
      obtain ⟨g', hg', halone⟩ := hhost _ hreq gid g hg hne
      exact not_leftAlone_of_meddles env hw hreq hg hm hg' halone
    · rintro hpeace ⟨port, c, req⟩ hreq gid g hg hne
      exact leftAlone_of_peaceful env hw hc hreq hg hne (hpeace _ hreq gid g hg hne)
  · rw [hl]
    exact ⟨GatheringRegistry.WellIndexed.empty, Timers.Clock.empty⟩

/-- A host and a stranger. -/
def start : World :=
  Sample.world [Sample.connection .secure 1 10000, Sample.connection .secure 2 10001]

/-- The host creates a lobby. -/
def created : Event := .packet .secure (Sample.remote 1) (Sample.data 1 60 4 [])

/-- The stranger closes it. -/
def strangerClose : Event := .packet .secure (Sample.remote 2) (Sample.data 1 60 19 (wU32 10000))

theorem control_iff_strangerClose :
    Guarded (step Sample.env) (HostControls Sample.env) [created, strangerClose] start ↔
      Guarded (step Sample.env) (NoMeddling Sample.env) [created, strangerClose] start :=
  control_iff Sample.env start rfl [created, strangerClose]

theorem not_hostControls_strangerClose :
    ¬ Guarded (step Sample.env) (HostControls Sample.env) [created, strangerClose] start := by
  rintro ⟨-, hhost, -⟩
  have hreq : ((requestOf Sample.env (step Sample.env created start) strangerClose).map fun r =>
      ((step Sample.env created start).heap r.2.1).userPid) = some 10001 := by
    decide +kernel
  have hbefore : ((step Sample.env created start).lobby.get 10000).map
      (fun g => (g.ownerPid, g.closed)) = some (10000, false) := by
    decide +kernel
  have hafter : ((step Sample.env strangerClose (step Sample.env created start)).lobby.get 10000).map
      Gathering.closed = some true := by
    decide +kernel
  generalize step Sample.env created start = w at hhost hreq hbefore hafter
  obtain ⟨r, hr, hpid⟩ := Option.map_eq_some_iff.mp hreq
  obtain ⟨g, hg, hview⟩ := Option.map_eq_some_iff.mp hbefore
  rw [Prod.mk.injEq] at hview
  have hstranger : (w.heap r.2.1).userPid ≠ g.ownerPid := by
    rw [hpid, hview.1]
    decide
  obtain ⟨g', hg', halone⟩ := hhost r hr 10000 g hg hstranger
  rw [hg', Option.map_some, halone.closed, hview.2] at hafter
  cases hafter

end Control
end Ghostbusters
