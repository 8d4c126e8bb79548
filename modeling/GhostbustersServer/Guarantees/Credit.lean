import GhostbustersServer.Effects.Reports
import GhostbustersServer.Guarantees.Sample

/-!
# Which batch a report counts for

A report names its lobby in its first four bytes.  The handler does not read them; it takes
the first lobby of the registry that lists the sender.

    Credited g pid w w'    the report is in the batch of `g`, and no other batch has changed
    credited_iff           so it is, if the report arrives and `g` is listed first; and a
                           sender whose first report this is has it nowhere else
-/

namespace Ghostbusters
namespace Credit

open Py Act PRUDPServer

variable (env : Env)

/-- A report of a player for a lobby that lists the player. -/
structure Reports (e : Event) (w : World) (port : Port) (c : ConnId) (req : Request)
    (g : Gathering) : Prop where
  request : requestOf env w e = some (port, c, req)
  proto : req.proto = 60
  method : req.method = 12
  header : 4 ≤ req.params.length
  live : w.lobby.get (leadingGid req) = some g
  listed : (w.heap c).userPid ∈ g.pids

/-- **The property.** -/
structure Credited (g : Gathering) (pid : Nat) (w w' : World) : Prop where
  recorded : (∃ g', w'.lobby.get g.id = some g' ∧ pid ∈ g'.receivedM12Pids) ∨
    ∃ new, w'.trace = w.trace ++ new ∧ .statsBatch g.id .allReported g.pids ∈ new
  others : ∀ k, k ≠ g.id →
    (w'.lobby.get k).map Gathering.batch = (w.lobby.get k).map Gathering.batch

/-- **The condition.**  The report gets to a batch, and the named lobby is the first that
lists the sender. -/
def Routed (g : Gathering) (pid : Nat) (params : Bytes) (w : World) : Prop :=
  Game.Arrives env pid params w.db ∧ Game.senderGathering w.lobby pid = some g

/-- An entry that is no batch. -/
def NoBatch (e : TraceEntry) : Prop := ∀ gid reason roster, e ≠ .statsBatch gid reason roster

theorem noBatch_of_calm {e : TraceEntry} (h : e.IsCalm) : NoBatch e := by
  rintro gid reason roster rfl
  rcases h with h | ⟨pid, vec0, rows, h⟩
  · exact h
  · cases h

theorem noBatch_of_packet {e : TraceEntry} (h : e.IsPacket) : NoBatch e :=
  noBatch_of_calm (.inl h.isSend)

/-- A step that delivers a report is the handler, between states that agree on what the
report is about. -/
theorem step_report {e : Event} {w : World} {port : Port} {c : ConnId} {req : Request}
    (hreq : requestOf env w e = some (port, c, req)) (hu : req.Uploads) : ∃ w1,
      w1.lobby = w.lobby ∧ w1.db = w.db ∧ (w1.heap c).userPid = (w.heap c).userPid ∧
      LogGrows NoBatch w w1 ∧
      (step env e w).lobby = ((Game.reportStats env port c req).after w1).lobby ∧
      LogGrows NoBatch ((Game.reportStats env port c req).after w1) (step env e w) := by
  obtain ⟨body, w1, hr, hmute⟩ := Game.step_uploads env (answer_mute env port c) hreq hu
  refine ⟨w1.logged (.onPayload port c body), hr.lobby, hr.db, hr.userPid c, ?_, hmute.lobby,
    hmute.sends.mono fun _ he => noBatch_of_calm (.inl he)⟩
  refine LogGrows.trans (hr.packets.mono fun _ he => noBatch_of_packet he) ?_
  exact ⟨[_], rfl, by simp [NoBatch]⟩

/-- The lobby of the sender has the report, unless the report has completed its batch. -/
theorem mem_received_report {l : Lobby} (hl : l.registry.WellIndexed) {pid : Nat} {g : Gathering}
    (hs : Game.senderGathering l pid = some g) (hc : Game.completing l pid = none) (port : Port)
    (arm clear : Bool) :
    ∃ g', (l.report port pid arm clear).get g.id = some g' ∧ pid ∈ g'.receivedM12Pids := by
  have hget := Game.get_addReport_sender hl hs
  have hsub : ¬ (Game.reported g pid).expectedM12Pids ⊆ (Game.reported g pid).receivedM12Pids := by
    intro hsub
    unfold Game.completing at hc
    rw [hs, Option.map_some, Option.filter_some, if_pos (decide_eq_true hsub)] at hc
    cases hc
  have hin := Game.mem_received_reported g pid
  unfold Lobby.report
  simp only [hs, hget, if_neg hsub]
  cases arm with
  | false => exact ⟨_, hget, hin⟩
  | true =>
    rw [if_pos rfl, Lobby.get_arm, if_pos rfl, hget]
    refine ⟨_, rfl, ?_⟩
    dsimp only
    split
    · exact hin
    · exact hin

variable {env} {e : Event} {w : World} {port : Port} {c : ConnId} {req : Request} {g : Gathering}

theorem Reports.uploads (h : Reports env e w port c req g) : req.Uploads := by
  refine ⟨h.proto, h.method, fun hn => ?_⟩
  have := h.header
  rw [hn] at this
  cases this

theorem Reports.id (h : Reports env e w port c req g) (hw : w.lobby.registry.WellIndexed) :
    g.id = leadingGid req := hw.ids _ _ h.live

/-- **A report that meets the condition.** -/
theorem credited_of_routed (hw : w.lobby.registry.WellIndexed) (h : Reports env e w port c req g)
    (hr : Routed env g (w.heap c).userPid req.params w) :
    Credited g (w.heap c).userPid w (step env e w) := by
  obtain ⟨w1, hl1, hd1, hp1, hlog1, hlobby, hlog⟩ := step_report env h.request h.uploads
  obtain ⟨harr, hs⟩ := hr
  rw [← hp1, ← hd1] at harr
  rw [← hl1] at hw hs
  obtain ⟨new, hnew, hafter⟩ := Game.reportStats_arrives env port harr
  rw [hp1] at hafter
  let w2 : World := { Game.counted env (w.heap c).userPid req.params w1 with
    trace := w1.trace ++ new }
  change (Game.reportStats env port c req).after w1 =
    (Game.trackReport env port (w.heap c).userPid).after w2 at hafter
  rw [hafter] at hlobby hlog
  obtain ⟨-, -, clear, hop, -⟩ := Game.trackReport_spec env port (w.heap c).userPid w2 hw
  change ((Game.trackReport env port (w.heap c).userPid).after w2).lobby =
    w1.lobby.report port (w.heap c).userPid env.loopRunning clear at hop
  rw [hop] at hlobby
  refine ⟨?_, ?_⟩
  · cases hc : Game.completing w1.lobby (w.heap c).userPid with
    | none =>
      left
      rw [hlobby]
      exact mem_received_report hw hs hc port env.loopRunning clear
    | some g' =>
      right
      obtain ⟨rest, hrest⟩ := Game.trackReport_fired env port (w := w2) hw hc
      obtain ⟨g0, hs0, rfl, -⟩ := Game.completing_eq_some hc
      cases hs0.symm.trans hs
      rw [Game.id_reported, Game.pids_reported] at hrest
      obtain ⟨before, hbefore, -⟩ := hlog1
      obtain ⟨behind, hbehind, -⟩ := hlog
      refine ⟨before ++ new ++ .statsBatch g.id .allReported g.pids :: rest ++ behind, ?_, ?_⟩
      · rw [hbehind, hrest]
        show w1.trace ++ new ++ _ ++ _ = _
        rw [hbefore]
        simp only [List.append_assoc]
      · simp
  · intro k hk
    rw [hlobby, ← hl1]
    refine congrArg (Option.map Gathering.batch) (Game.get_report_of_ne ?_ port _ clear)
    intro g' hg'
    cases hg'.symm.trans hs
    exact hk

/-- A first report that neither changes the batch nor fires it. -/
theorem not_credited_of_same {w' : World} (hw : w.lobby.registry.WellIndexed)
    (h : Reports env e w port c req g) (hnew : (w.heap c).userPid ∉ g.receivedM12Pids)
    (hsame : w'.lobby.get g.id = w.lobby.get g.id)
    (hlog : LogGrows (fun e => e ≠ .statsBatch g.id .allReported g.pids) w w') :
    ¬ Credited g (w.heap c).userPid w w' := by
  rintro ⟨⟨g', hg', hin⟩ | ⟨new, htrace, hmem⟩, -⟩
  · rw [hsame, h.id hw, h.live] at hg'
    cases hg'
    exact hnew hin
  · obtain ⟨new', htrace', hall⟩ := hlog
    rw [htrace', List.append_cancel_left_eq] at htrace
    subst htrace
    exact hall _ hmem rfl

/-- The sender is in a lobby, so the handler finds one. -/
theorem exists_senderGathering (h : Reports env e w port c req g) :
    ∃ g', Game.senderGathering w.lobby (w.heap c).userPid = some g' := by
  apply Option.isSome_iff_exists.mp
  unfold Game.senderGathering
  rw [List.find?_isSome]
  obtain ⟨p, hp, hpid⟩ := List.mem_map.mp h.listed
  refine ⟨g, (w.lobby.registry.mem_allGatherings_iff g).mpr ⟨_, h.live⟩, ?_⟩
  exact List.any_eq_true.mpr ⟨p, hp, by simp [hpid]⟩

/-- **A first report that does not meet it.** -/
theorem routed_of_credited (hw : w.lobby.registry.WellIndexed) (h : Reports env e w port c req g)
    (hnew : (w.heap c).userPid ∉ g.receivedM12Pids)
    (hc : Credited g (w.heap c).userPid w (step env e w)) :
    Routed env g (w.heap c).userPid req.params w := by
  obtain ⟨w1, hl1, hd1, hp1, hlog1, hlobby, hlog2⟩ := step_report env h.request h.uploads
  have hno : ∀ {a b : World}, LogGrows NoBatch a b →
      LogGrows (fun e => e ≠ .statsBatch g.id .allReported g.pids) a b := fun hl =>
    hl.mono fun e he => he _ _ _
  by_contra hn
  by_cases harr : Game.Arrives env (w.heap c).userPid req.params w.db
  · -- another lobby is listed first
    obtain ⟨g', hs⟩ := exists_senderGathering h
    have hne : g'.id ≠ g.id := by
      intro he
      have hg' := Game.get_of_senderGathering hw hs
      rw [he, h.id hw, h.live] at hg'
      cases hg'
      exact hn ⟨harr, hs⟩
    rw [← hp1, ← hd1] at harr
    obtain ⟨new, hstored, hafter⟩ := Game.reportStats_arrives env port harr
    rw [hp1] at hstored hafter
    let w2 : World := { Game.counted env (w.heap c).userPid req.params w1 with
      trace := w1.trace ++ new }
    change (Game.reportStats env port c req).after w1 =
      (Game.trackReport env port (w.heap c).userPid).after w2 at hafter
    rw [hafter] at hlobby hlog2
    have hw2 : w2.lobby.registry.WellIndexed := by
      change w1.lobby.registry.WellIndexed
      rw [hl1]
      exact hw
    have hs2 : ∀ k, Game.senderGathering w2.lobby (w.heap c).userPid = some k → k = g' := by
      intro k hk
      change Game.senderGathering w1.lobby _ = some k at hk
      rw [hl1, hs] at hk
      exact (Option.some.inj hk).symm
    obtain ⟨-, hlog, clear, hop, -⟩ := Game.trackReport_spec env port (w.heap c).userPid w2 hw2
    refine not_credited_of_same hw h hnew ?_ ?_ hc
    · rw [hlobby, hop, ← hl1]
      exact Game.get_report_of_ne (fun k hk => hs2 k hk ▸ hne.symm) port _ clear
    · have hcalm := (Game.counted_calm env (w.heap c).userPid req.params w1 hstored).log
      refine (hno hlog1).trans ((hno (hcalm.mono fun _ he => noBatch_of_calm he)).trans ?_)
      refine LogGrows.trans (hlog.mono fun e he => ?_) (hno hlog2)
      rcases he with he | ⟨k, hk, -, rfl⟩
      · exact noBatch_of_calm he _ _ _
      · intro he
        rw [hs2 k hk] at he
        injection he with hid
        exact hne hid
  · rw [← hp1, ← hd1] at harr
    have hcalm := Game.reportStats_lost env port harr
    refine not_credited_of_same hw h hnew ?_ ?_ hc
    · rw [hlobby, hcalm.lobby, hl1]
    · refine (hno hlog1).trans ((hno ?_).trans (hno hlog2))
      exact hcalm.log.mono fun _ he => noBatch_of_calm he

variable (env) in
/-- **Where the reports of a match count**: in every state of a run from a registry whose
indices agree, a report that gets to a batch counts for the lobby it names if that lobby is
the first to list the sender; and for a first report nothing else will do. -/
theorem credited_iff (w0 : World) (hw : w0.lobby.registry.WellIndexed) (es : List Event) (e : Event)
    (port : Port) (c : ConnId) (req : Request) (g : Gathering)
    (h : Reports env e (runs (step env) es w0) port c req g) :
    (Routed env g ((runs (step env) es w0).heap c).userPid req.params (runs (step env) es w0) →
      Credited g ((runs (step env) es w0).heap c).userPid (runs (step env) es w0)
        (step env e (runs (step env) es w0))) ∧
    (((runs (step env) es w0).heap c).userPid ∉ g.receivedM12Pids →
      Credited g ((runs (step env) es w0).heap c).userPid (runs (step env) es w0)
        (step env e (runs (step env) es w0)) →
      Routed env g ((runs (step env) es w0).heap c).userPid req.params (runs (step env) es w0)) := by
  have hi : (runs (step env) es w0).lobby.registry.WellIndexed :=
    runs_preserves (I := fun w => w.lobby.registry.WellIndexed) (fun e w hw => step_indexed env e hw)
      es w0 hw
  exact ⟨credited_of_routed hi h, routed_of_credited hi h⟩

/-! ## Two lobbies -/

/-- A host and a guest. -/
def start : World := Sample.world [Sample.connection .auth 1 10000, Sample.connection .auth 2 10001]

/-- The guest joins lobby 10000. -/
def joined : List Event :=
  [.packet .auth (Sample.remote 1) (Sample.data 1 60 4 []),
   .packet .auth (Sample.remote 2) (Sample.data 1 60 5 (wU32 10000))]

def report (gid : Nat) : Request := { proto := 60, method := 12, callId := 1, params := wU32 gid }

/-- The guest reports for lobby 10000. -/
def reportJoined : Event := .packet .auth (Sample.remote 2) (Sample.data 2 60 12 (wU32 10000))

/-- It counts for that lobby. -/
theorem credited_joined : ∃ g, (runs (step Sample.env) joined start).lobby.get 10000 = some g ∧
    Credited g ((runs (step Sample.env) joined start).heap 1).userPid
      (runs (step Sample.env) joined start)
      (step Sample.env reportJoined (runs (step Sample.env) joined start)) := by
  have hreq : requestOf Sample.env (runs (step Sample.env) joined start) reportJoined =
      some (.auth, 1, report 10000) := by
    decide +kernel
  have hget : ((runs (step Sample.env) joined start).lobby.get 10000).map Gathering.pids =
      some [((runs (step Sample.env) joined start).heap 0).userPid,
        ((runs (step Sample.env) joined start).heap 1).userPid] := by
    decide +kernel
  have hrouted : Game.senderGathering (runs (step Sample.env) joined start).lobby
        ((runs (step Sample.env) joined start).heap 1).userPid =
          (runs (step Sample.env) joined start).lobby.get 10000 ∧
      Game.Arrives Sample.env ((runs (step Sample.env) joined start).heap 1).userPid
        (report 10000).params (runs (step Sample.env) joined start).db := by
    decide +kernel
  obtain ⟨g, hg, hpids⟩ := Option.map_eq_some_iff.mp hget
  obtain ⟨hs, harr⟩ := hrouted
  rw [hg] at hs
  have hin : ((runs (step Sample.env) joined start).heap 1).userPid ∈ g.pids := by
    rw [hpids]
    exact List.mem_cons_of_mem _ List.mem_cons_self
  have h : Reports Sample.env reportJoined (runs (step Sample.env) joined start) .auth 1
      (report 10000) g := ⟨hreq, rfl, rfl, by decide, hg, hin⟩
  exact ⟨g, hg, (credited_iff Sample.env start GatheringRegistry.WellIndexed.empty joined
    reportJoined .auth 1 (report 10000) g h).1 ⟨harr, hs⟩⟩

/-- The guest then creates lobby 10001, and is still listed in the other one. -/
def moved : List Event := joined ++ [.packet .auth (Sample.remote 2) (Sample.data 2 60 4 [])]

/-- It reports for its own lobby. -/
def reportMoved : Event := .packet .auth (Sample.remote 2) (Sample.data 3 60 12 (wU32 10001))

/-- The report counts for lobby 10000. -/
theorem not_credited_moved : ∃ g,
    Reports Sample.env reportMoved (runs (step Sample.env) moved start) .auth 1 (report 10001) g ∧
    ((step Sample.env reportMoved (runs (step Sample.env) moved start)).lobby.get 10000).map
      Gathering.receivedM12Pids = some {10001} ∧
    ¬ Credited g ((runs (step Sample.env) moved start).heap 1).userPid
      (runs (step Sample.env) moved start)
      (step Sample.env reportMoved (runs (step Sample.env) moved start)) := by
  have hreq : requestOf Sample.env (runs (step Sample.env) moved start) reportMoved =
      some (.auth, 1, report 10001) := by
    decide +kernel
  have hget : ((runs (step Sample.env) moved start).lobby.get 10001).map (fun g => (g.id, g.pids)) =
      some (10001, [((runs (step Sample.env) moved start).heap 1).userPid]) := by
    decide +kernel
  obtain ⟨g, hg, hids⟩ := Option.map_eq_some_iff.mp hget
  rw [Prod.mk.injEq] at hids
  have hin : ((runs (step Sample.env) moved start).heap 1).userPid ∈ g.pids := by
    rw [hids.2]
    exact List.mem_singleton.mpr rfl
  have hne : 10000 ≠ g.id := by
    rw [hids.1]
    exact (Nat.lt_succ_self 10000).ne
  refine ⟨g, ⟨hreq, rfl, rfl, by decide, hg, hin⟩, by decide +kernel, fun h => ?_⟩
  have hsame := h.others 10000 hne
  revert hsame
  decide +kernel

end Credit
end Ghostbusters
