import GhostbustersServer.Effects.Aging
import GhostbustersServer.Effects.Pushes
import GhostbustersServer.Guarantees.Address
import GhostbustersServer.Guarantees.Capacity
import GhostbustersServer.Guarantees.Sample

/-!
# The clients' copies of the participant lists

`track` runs the server beside what every client makes of the participation events it
is sent: a host starts with itself, a joiner with nobody.

    Hears env e w → Agree (w, R) → Agree (track env e (w, R))        (step_agree)
    a run of such steps agrees throughout                            (rosters_agree)

A join, a leave and a destruction are heard of if their pushes can be encoded and go
out on the port of those that must hear them.  A close is announced to nobody, so it is
heard of only if nobody is left to hear it.
-/

namespace Ghostbusters

open Py PRUDPServer

namespace Roster

variable (env : Env)

/-- Each client's roster of each gathering. -/
abbrev Rosters : Type := ConnId × Nat → Finset Nat

/-- The roster that a client has of a lobby it creates, or is let into. -/
def enter (e : Event) (w : World) (R : Rosters) : Rosters :=
  match requestOf env w e with
  | none => R
  | some (_, c, req) =>
    if req.proto = 60 ∧ req.method = 4 then
      Function.update R (c, w.lobby.registry.gatheringIdSeq) {(w.heap c).userPid}
    else if req.proto = 60 ∧ req.method = 5 then
      match Game.admitted w (w.heap c).userPid req with
      | none => R
      | some g => Function.update R (c, g.id) ∅
    else R

/-- One event, and what the clients make of the notices it sends, in order. -/
def track (e : Event) (s : World × Rosters) : World × Rosters :=
  let w' := step env e s.1
  (w', deliverAll (enter env e s.1 s.2)
    ((w'.trace.drop s.1.trace.length).filterMap Notification.noticeOf))

/-- Every participant of a lobby whose connection is live has its participants in its
roster. -/
def Copies (w : World) (R : Rosters) (gid : Nat) (g : Gathering) : Prop :=
  ∀ p ∈ g.participants, ∀ c, p.conn = some c → Live w c → R (c, gid) = g.pids.toFinset

/-- Every copy of every lobby. -/
def Agree (s : World × Rosters) : Prop :=
  ∀ gid g, s.1.lobby.get gid = some g → Copies s.1 s.2 gid g

/-! ## When they agree -/

/-- If its connection is live, the participant is on that port. -/
def OnPort (w : World) (port : Port) (p : Participant) : Prop :=
  ∀ c ∈ p.conn, Live w c → (w.heap c).localPort = port

/-- A player who is listed already is at its listed address; a newcomer's port is that of
the others; every push can be encoded. -/
def JoinHeard (w : World) (port : Port) (c : ConnId) (g : Gathering) : Prop :=
  (∀ p ∈ g.participants, p.pid = (w.heap c).userPid → p.remote = (w.heap c).remote) ∧
  ((w.heap c).userPid ∉ g.pids → ∀ p ∈ g.participants, OnPort w port p) ∧
  AllGo env w.heap (w.serverCallId port) (joinPushes w port c g) = true

/-- A player who is listed leaves from the port of the others; every push can be encoded. -/
def LeaveHeard (w : World) (port : Port) (c : ConnId) (g : Gathering) : Prop :=
  (w.heap c).userPid ∈ g.pids → (∀ p ∈ (w.left c g).participants, OnPort w port p) ∧
    AllGo env w.heap (w.serverCallId port) (leavePushes w port c (w.left c g)) = true

/-- Every push of a destruction by the owner can be encoded. -/
def DestroyHeard (w : World) (port : Port) (c : ConnId) (g : Gathering) : Prop :=
  (w.heap c).userPid = g.ownerPid →
    AllGo env w.heap (w.serverCallId port) (leavePushes w port c g) = true

def RequestHeard (w : World) (port : Port) (c : ConnId) (req : Request) : Prop :=
  (req.proto = 60 → req.method = 5 → ∀ g ∈ Game.admitted w (w.heap c).userPid req,
    JoinHeard env w port c g) ∧
  (req.proto = 60 → req.method = 16 → ∀ g ∈ w.lobby.get (leadingGid req),
    LeaveHeard env w port c g) ∧
  (req.proto = 21 → req.method = 36 → ∀ g ∈ w.lobby.get (leadingGid req),
    DestroyHeard env w port c g)

/-- Whoever stays in a lobby that somebody is dropped from is gone itself. -/
def CloseHeard (e : Event) (w : World) : Prop :=
  ∀ g ∈ w.lobby.registry.allGatherings, g.ownerRemote ∉ closing w e →
    (∃ p ∈ g.participants, p.remote ∈ closing w e) →
    ∀ p ∈ g.participants, p.remote ∉ closing w e → ∀ c ∈ p.conn, ¬ Live w c

def Hears (e : Event) (w : World) : Prop :=
  (∀ r ∈ requestOf env w e, RequestHeard env w r.1 r.2.1 r.2.2) ∧ CloseHeard e w

instance (w : World) (port : Port) (p : Participant) : Decidable (OnPort w port p) := by
  unfold OnPort
  infer_instance

instance (w : World) (port : Port) (c : ConnId) (g : Gathering) :
    Decidable (JoinHeard env w port c g) := by
  unfold JoinHeard
  infer_instance

instance (w : World) (port : Port) (c : ConnId) (g : Gathering) :
    Decidable (LeaveHeard env w port c g) := by
  unfold LeaveHeard
  infer_instance

instance (w : World) (port : Port) (c : ConnId) (g : Gathering) :
    Decidable (DestroyHeard env w port c g) := by
  unfold DestroyHeard
  infer_instance

instance (w : World) (port : Port) (c : ConnId) (req : Request) :
    Decidable (RequestHeard env w port c req) := by
  unfold RequestHeard
  infer_instance

instance (e : Event) (w : World) : Decidable (Hears env e w) := by
  unfold Hears CloseHeard
  infer_instance

/-! ## What the lists of participants say of connections -/

/-- The participant's connection is one there has been, from the listed address. -/
def Seated (w : World) (p : Participant) : Prop :=
  p.pid < 2 ^ 32 ∧ ∀ c, p.conn = some c → c < w.nextConn ∧ (w.heap c).remote = p.remote

/-- What a step that is heard of needs of the state before it. -/
structure Ready (w : World) : Prop where
  sound : Sound w
  capped : Capacity.AllCapped w.lobby
  pid : ∀ c, (w.heap c).userPid < 2 ^ 32
  owner : ∀ gid g, w.lobby.get gid = some g → g.ownerPid < 2 ^ 32
  seated : ∀ gid g, w.lobby.get gid = some g → ∀ p ∈ g.participants, Seated w p

/-- The joiner sits at its own address. -/
theorem seated_joined {w : World} (h : Ready w) {gid : Nat} {g : Gathering}
    (hg : w.lobby.get gid = some g) {c : ConnId} (hc : c < w.nextConn)
    (hhome : ∀ p ∈ g.participants, p.pid = (w.heap c).userPid → p.remote = (w.heap c).remote)
    {p : Participant} (hp : p ∈ (w.joined c g).participants) :
    Seated w p ∧ (p.pid = (w.heap c).userPid → p.remote = (w.heap c).remote) := by
  rcases GatheringRegistry.mem_joined hp with hp | ⟨hpid, hconn, hremote⟩
  · exact ⟨h.seated gid g hg p hp, hhome p hp⟩
  · have hr := hremote.trans (GatheringRegistry.listedRemote_of_home hhome)
    refine ⟨⟨by rw [hpid]; exact h.pid c, ?_⟩, fun _ => hr⟩
    intro k hk
    cases hconn.symm.trans hk
    exact ⟨hc, hr.symm⟩

/-- **Every move** lists players whose PIDs fit their field. -/
theorem pids_apply {w w' : World} {e : Event} {op : LobbyOp} (h : Ready w)
    (hp : StepPerforms env w e w' op) : (op.apply w.lobby).AllPlayers (· < 2 ^ 32) :=
  allPlayers_apply env h.sound.indexed hp
    (fun gid g hg => ⟨h.owner gid g hg, fun p hin => (h.seated gid g hg p hin).1⟩)
    fun _ c _ _ _ => h.pid c

/-- **Every move** lists connections at their addresses. -/
theorem sits_apply {w w' : World} {e : Event} {op : LobbyOp} (h : Ready w)
    (hh : Hears env e w) (hp : StepPerforms env w e w' op) {gid : Nat} {g' : Gathering}
    (hg' : (op.apply w.lobby).get gid = some g') {p : Participant} (hin : p ∈ g'.participants) :
    Address.Sits w p := by
  refine Address.sits_apply env h.sound (fun gid g hg p hin => (h.seated gid g hg p hin).2) ?_ hp
    hg' hin
  rintro ⟨port, c, req⟩ hreq h1 h2 g hadm
  exact GatheringRegistry.listedRemote_of_home ((hh.1 _ hreq).1 h1 h2 g hadm).1

theorem step_ready (e : Event) {w : World} (hh : Hears env e w) (h : Ready w) :
    Ready (step env e w) := by
  have ha := step_aged env e h.sound.indexed
  obtain ⟨op, hp, hop⟩ := step_lobby env e h.sound.indexed
  refine ⟨step_sound env e h.sound, ?_, ?_, ?_, ?_⟩
  · rw [hop]
    exact Capacity.allCapped_apply env h.sound.indexed hp h.capped
  · intro c
    rcases ha.pid c with hc | hc
    · rw [hc]
      exact h.pid c
    · exact hc
  · intro gid g' hg'
    rw [hop] at hg'
    exact (pids_apply env h hp gid g' hg').1
  · intro gid g' hg' p hin
    rw [hop] at hg'
    exact ⟨(pids_apply env h hp gid g' hg').2 p hin, (sits_apply env h hh hp hg' hin).aged ha⟩

/-! ## Each way a list changes -/

/-- A lobby with the same participants, and nothing told about it. -/
theorem Copies.of_same {w w' : World} {R R' : Rosters} {gid : Nat} {g g' : Gathering}
    (h : Copies w R gid g) (hs : ∀ p ∈ g.participants, Seated w p) (ha : Aged w w')
    (hps : g'.participants = g.participants) (hR : ∀ c, R' (c, gid) = R (c, gid)) :
    Copies w' R' gid g' := by
  intro p hp c hc hlive
  rw [hps] at hp
  have hold := h p hp c hc (ha.live c ((hs p hp).2 c hc).1 hlive)
  rw [hR, hold]
  unfold Gathering.pids
  rw [hps]

/-- Nobody enters, and nobody is told anything. -/
theorem agree_of_sameMembers {w w' : World} {R : Rosters} (h : Ready w) (ha : Agree (w, R))
    (hage : Aged w w') (hl : Lobby.SameMembers w.lobby w'.lobby) : Agree (w', R) := by
  intro gid g' hg'
  obtain ⟨g, hg, hm⟩ := hl.back hg'
  exact (ha gid g hg).of_same (h.seated gid g hg) hage
    (congrArg Gathering.participants hm.symm :) fun _ => rfl

/-- The hooks of a close: whoever is left is gone itself, or nobody went. -/
theorem agree_of_gone {w w' : World} {R : Rosters} {e : Event} (h : Ready w) (ha : Agree (w, R))
    (hage : Aged w w') (hh : CloseHeard e w)
    (hl : w'.lobby = (LobbyOp.gone (closing w e)).apply w.lobby) : Agree (w', R) := by
  intro gid g' hg'
  change w'.lobby.get gid = some g' at hg'
  rw [hl] at hg'
  obtain ⟨g, hg, howner, rfl⟩ := (Lobby.get_gone h.sound.indexed (closing w e) gid g').mp hg'
  by_cases hgone : ∃ p ∈ g.participants, p.remote ∈ closing w e
  · intro p hp c hc hlive
    obtain ⟨hin, hstay⟩ := List.mem_filter.mp hp
    have hall : g ∈ w.lobby.registry.allGatherings :=
      (w.lobby.registry.mem_allGatherings_iff g).mpr ⟨gid, hg⟩
    have hdead := hh g hall howner hgone p hin (of_decide_eq_true hstay) c hc
    exact absurd (hage.live c ((h.seated gid g hg p hin).2 c hc).1 hlive) hdead
  · refine (ha gid g hg).of_same (h.seated gid g hg) hage ?_ fun _ => rfl
    rw [List.filter_eq_self]
    intro p hp
    exact decide_eq_true fun hr => hgone ⟨p, hp, hr⟩

/-- The host of a new lobby is in its roster. -/
theorem agree_of_create {w w' : World} {R : Rosters} {c : ConnId} {raw : Bytes} (h : Ready w)
    (ha : Agree (w, R)) (hage : Aged w w')
    (hl : w'.lobby =
      (LobbyOp.create (w.heap c).userPid (w.heap c).remote raw c).apply w.lobby) :
    Agree (w', Function.update R (c, w.lobby.registry.gatheringIdSeq) {(w.heap c).userPid}) := by
  intro gid g' hg'
  change w'.lobby.get gid = some g' at hg'
  rw [hl] at hg'
  change (w.lobby.registry.create _ _ _ (some c)).2.get gid = some g' at hg'
  rw [GatheringRegistry.get_create _ h.sound.indexed] at hg'
  split at hg'
  · next hseq =>
    cases hg'
    intro p hp k hk _
    rw [List.mem_singleton.mp hp] at hk
    cases hk
    rw [hseq]
    exact (Function.update_self _ _ _).trans (by simp [Gathering.pids, GatheringRegistry.newGathering])
  · next hseq =>
    split at hg'
    · cases hg'
    · refine (ha gid g' hg').of_same (h.seated gid g' hg') hage rfl fun k => ?_
      exact Function.update_of_ne (fun he => hseq (Prod.ext_iff.mp he).2) _ _

section
variable {w : World} {port : Port} {c : ConnId} {g : Gathering}
  {ms : List ((ConnId × Nat) × Change Nat)} (hinserts : ∀ m ∈ ms, ∃ a, m.2 = .insert a)
  (hms : ∀ m, m ∈ ms ↔ (∃ p ∈ (w.joined c g).participants, p.pid ≠ (w.heap c).userPid ∧
      ∃ k, (w.connections port).get? p.remote = some k ∧
        m = ((k, g.id), .insert (w.heap c).userPid)) ∨
    ∃ p ∈ (w.joined c g).participants, m = ((c, g.id), .insert p.pid))
include hinserts hms

/-- The joiner's roster is what it is told. -/
theorem copy_of_joiner (R : Rosters) :
    deliverAll (Function.update R (c, g.id) ∅) ms (c, g.id) = (w.joined c g).pids.toFinset := by
  ext x
  rw [List.mem_toFinset]
  refine (mem_deliverAll_of_inserts _ _ hinserts (c, g.id) x).trans ?_
  rw [hms, Function.update_self]
  simp only [Finset.notMem_empty, false_or, Prod.mk.injEq, true_and, Change.insert.injEq]
  constructor
  · rintro (⟨p, -, -, -, -, -, rfl⟩ | ⟨p, hp, rfl⟩)
    · exact (mem_pids_joined w c g _).mpr (.inr rfl)
    · exact List.mem_map.mpr ⟨p, hp, rfl⟩
  · intro hx
    obtain ⟨p, hp, rfl⟩ := List.mem_map.mp hx
    exact .inr ⟨p, hp, rfl⟩

/-- The others had their list, and are told of a joiner who is new in it. -/
theorem copy_of_other {R : Rosters} {k : ConnId} (hk : k ≠ c) (hR : R (k, g.id) = g.pids.toFinset)
    (htold : (w.heap c).userPid ∉ g.pids → ∃ p ∈ (w.joined c g).participants,
      p.pid ≠ (w.heap c).userPid ∧ (w.connections port).get? p.remote = some k) :
    deliverAll (Function.update R (c, g.id) ∅) ms (k, g.id) = (w.joined c g).pids.toFinset := by
  ext x
  rw [List.mem_toFinset]
  refine (mem_deliverAll_of_inserts _ _ hinserts (k, g.id) x).trans ?_
  rw [hms, Function.update_of_ne (fun he => hk (Prod.ext_iff.mp he).1), hR, List.mem_toFinset,
    mem_pids_joined]
  simp only [Prod.mk.injEq, hk, false_and, and_false, exists_false, or_false, and_true,
    Change.insert.injEq]
  constructor
  · rintro (hx | ⟨p, -, -, -, -, -, rfl⟩)
    · exact .inl hx
    · exact .inr rfl
  · rintro (hx | rfl)
    · exact .inl hx
    · by_cases hin : (w.heap c).userPid ∈ g.pids
      · exact .inl hin
      · obtain ⟨p, hp, hne, hconn⟩ := htold hin
        exact .inr ⟨p, hp, hne, k, hconn, rfl, rfl⟩

end

/-- **A join that everyone hears of.** -/
theorem agree_of_join {w w' : World} {R : Rosters} {port : Port} {c : ConnId} {req : Request}
    {g : Gathering} (h : Ready w) (ha : Agree (w, R)) (hage : Aged w w')
    (hc : c < w.nextConn ∧ (w.heap c).localPort = port ∧
      (w.connections port).get? (w.heap c).remote = some c)
    (hadm : Game.admitted w (w.heap c).userPid req = some g) (hh : JoinHeard env w port c g)
    (hl : w'.lobby = (Game.joinedWorld w c g).lobby) :
    Agree (w', deliverAll (Function.update R (c, g.id) ∅)
      ((joinPushes w port c g).filterMap Push.notice)) := by
  have hget := (Game.admitted_eq_some hadm).1
  have hid := h.sound.indexed.ids _ g hget
  have hgid : g.id < 2 ^ 32 := by
    rw [hid]
    exact leadingGid_lt req
  have hseated : ∀ p ∈ (w.joined c g).participants, Seated w p ∧
      (p.pid = (w.heap c).userPid → p.remote = (w.heap c).remote) := fun p hp =>
    seated_joined h hget hc.1 hh.1 hp
  have hnotices := @mem_join_notices w port c g hgid (h.pid c)
    (fun p hp => (hseated p hp).1.1) (fun p hp => (hseated p hp).2) hc.2.2
  have hinserts : ∀ m ∈ (joinPushes w port c g).filterMap Push.notice,
      (∃ a, m.2 = .insert a) ∧ m.1.2 = g.id := by
    intro m hm
    rcases (hnotices m).mp hm with ⟨p, -, -, k, -, rfl⟩ | ⟨p, -, rfl⟩
    · exact ⟨⟨_, rfl⟩, rfl⟩
    · exact ⟨⟨_, rfl⟩, rfl⟩
  intro gid g' hg'
  change w'.lobby.get gid = some g' at hg'
  rw [hl] at hg'
  change (w.lobby.registry.addParticipant g.id _ _ _ (some c)).2.get gid = some g' at hg'
  rw [GatheringRegistry.get_addParticipant] at hg'
  split at hg'
  · next hgid' =>
    subst hgid'
    rw [hid, show w.lobby.registry.get (leadingGid req) = some g from hget] at hg'
    cases hg'
    intro p hp k hk hlive
    change p ∈ (w.joined c g).participants at hp
    have hlive' := hage.live k ((hseated p hp).1.2 k hk).1 hlive
    by_cases hkc : k = c
    · subst hkc
      exact copy_of_joiner (fun m hm => (hinserts m hm).1) hnotices R
    · have hold : p ∈ g.participants := by
        rcases GatheringRegistry.mem_joined hp with hold | ⟨-, hconn, -⟩
        · exact hold
        · cases hconn.symm.trans hk
          exact absurd rfl hkc
      refine copy_of_other (fun m hm => (hinserts m hm).1) hnotices hkc ?_ fun hin => ?_
      · rw [hid]
        exact ha _ g hget p hold k hk hlive'
      · refine ⟨p, hp, fun hpid => hin (List.mem_map.mpr ⟨p, hold, hpid⟩), ?_⟩
        have hport := hh.2.1 hin p hold k hk hlive'
        unfold Live at hlive'
        rw [hport, ((hseated p hp).1.2 k hk).2] at hlive'
        exact hlive'
  · next hne =>
    refine (ha gid g' hg').of_same (h.seated gid g' hg') hage rfl fun k => ?_
    refine (deliverAll_of_ne _ _ fun m hm he => ?_).trans ?_
    · exact hne ((congrArg Prod.snd he).symm.trans (hinserts m hm).2)
    · exact Function.update_of_ne (fun he => hne (Prod.ext_iff.mp he).2) _ _

/-- Erasures for one lobby leave the rosters of the others. -/
theorem erased_elsewhere {w : World} {R : Rosters} {port : Port} {c : ConnId} {g : Gathering}
    (hgid : g.id < 2 ^ 32) (hpid : (w.heap c).userPid < 2 ^ 32) {gid : Nat} (hne : gid ≠ g.id)
    (k : ConnId) :
    deliverAll R ((leavePushes w port c g).filterMap Push.notice) (k, gid) = R (k, gid) := by
  refine deliverAll_of_ne _ _ fun m hm he => ?_
  obtain ⟨p, -, -, k', -, rfl⟩ := (mem_leave_notices hgid hpid m).mp hm
  exact hne (congrArg Prod.snd he).symm

/-- **A leave that everyone hears of.** -/
theorem agree_of_leave {w w' : World} {R : Rosters} {port : Port} {c : ConnId} {req : Request}
    {g : Gathering} (h : Ready w) (ha : Agree (w, R)) (hage : Aged w w')
    (hget : w.lobby.get (leadingGid req) = some g)
    (hport : ∀ p ∈ (w.left c g).participants, OnPort w port p)
    (hl : w'.lobby = (LobbyOp.leave (leadingGid req) (w.heap c).userPid).apply w.lobby) :
    Agree (w', deliverAll R ((leavePushes w port c (w.left c g)).filterMap Push.notice)) := by
  have hid := h.sound.indexed.ids _ g hget
  have hgid : (w.left c g).id < 2 ^ 32 := by
    rw [show (w.left c g).id = g.id from rfl, hid]
    exact leadingGid_lt req
  have hnotices := @mem_leave_notices w port c (w.left c g) hgid (h.pid c)
  intro gid g' hg'
  change w'.lobby.get gid = some g' at hg'
  rw [hl] at hg'
  change (w.lobby.registry.removeParticipant (leadingGid req) _).2.get gid = some g' at hg'
  rw [GatheringRegistry.get_removeParticipant] at hg'
  split at hg'
  · next hgid' =>
    subst hgid'
    rw [show w.lobby.registry.get (leadingGid req) = some g from hget] at hg'
    cases hg'
    intro p hp k hk hlive
    change p ∈ (w.left c g).participants at hp
    obtain ⟨hin, hpid⟩ := List.mem_filter.mp hp
    have hseat := h.seated _ g hget p hin
    have hlive' := hage.live k (hseat.2 k hk).1 hlive
    show _ = (w.left c g).pids.toFinset
    ext x
    rw [List.mem_toFinset]
    refine (mem_deliverAll_of_erases R _ ?_ (k, leadingGid req) x).trans ?_
    · intro m hm
      obtain ⟨p', -, -, k', -, rfl⟩ := (hnotices m).mp hm
      exact ⟨_, rfl⟩
    rw [hnotices, show R (k, leadingGid req) = g.pids.toFinset from ha _ g hget p hin k hk hlive',
      List.mem_toFinset]
    rw [mem_pids_left]
    refine and_congr_right fun _ => not_congr ?_
    constructor
    · rintro ⟨p', -, -, k', -, he⟩
      exact Change.erase.inj (congrArg Prod.snd he)
    · rintro rfl
      refine ⟨p, hp, by simpa using hpid, k, ?_, by rw [show (w.left c g).id = g.id from rfl, hid]⟩
      have hon := hport p hp k hk hlive'
      unfold Live at hlive'
      rw [hon, (hseat.2 k hk).2] at hlive'
      exact hlive'
  · next hne =>
    refine (ha gid g' hg').of_same (h.seated gid g' hg') hage rfl fun k => ?_
    exact erased_elsewhere hgid (h.pid c) (fun he => hne (he.trans hid)) k

/-- Whoever hears of a destruction loses no other lobby. -/
theorem agree_of_destroy {w w' : World} {R : Rosters} {port : Port} {c : ConnId} {req : Request}
    {g : Gathering} (h : Ready w) (ha : Agree (w, R)) (hage : Aged w w')
    (hget : w.lobby.get (leadingGid req) = some g)
    (hl : w'.lobby = (LobbyOp.destroy (leadingGid req)).apply w.lobby) :
    Agree (w', deliverAll R ((leavePushes w port c g).filterMap Push.notice)) := by
  have hid := h.sound.indexed.ids _ g hget
  have hgid : g.id < 2 ^ 32 := by
    rw [hid]
    exact leadingGid_lt req
  intro gid g' hg'
  change w'.lobby.get gid = some g' at hg'
  rw [hl] at hg'
  change (w.lobby.registry.destroy (leadingGid req)).2.get gid = some g' at hg'
  rw [GatheringRegistry.get_destroy] at hg'
  split at hg'
  · cases hg'
  · next hne =>
    refine (ha gid g' hg').of_same (h.seated gid g' hg') hage rfl fun k => ?_
    exact erased_elsewhere hgid (h.pid c) (fun he => hne (he.trans hid)) k

/-! ## Every event -/

theorem track_of_tells {e : Event} {w : World} {R : Rosters}
    {ns : List ((ConnId × Nat) × Change Nat)} (h : Tells w (step env e w) ns) :
    track env e (w, R) = (step env e w, deliverAll (enter env e w R) ns) := by
  unfold track
  dsimp only
  rw [h.drop]

/-- An event that lets nobody in or out by request. -/
theorem step_agree_silent (e : Event) {w : World} {R : Rosters} (h : Ready w) (ha : Agree (w, R))
    (hh : CloseHeard e w)
    (hn : ∀ port c req, requestOf env w e = some (port, c, req) →
      ¬ req.Announces ∧ ¬ (req.proto = 60 ∧ req.method = 4)) : Agree (track env e (w, R)) := by
  have hage := step_aged env e h.sound.indexed
  have htells := Tells.of_unannounced
    (step_unannounced env e w fun port c req hreq => (hn port c req hreq).1)
  have henter : enter env e w R = R := by
    unfold enter
    cases hreq : requestOf env w e with
    | none => rfl
    | some r =>
      obtain ⟨h1, h2⟩ := hn r.1 r.2.1 r.2.2 hreq
      simp only
      rw [if_neg h2, if_neg fun h5 => h1 (.inl ⟨h5.1, .inl h5.2⟩)]
  rw [track_of_tells env htells, henter, deliverAll_nil]
  obtain ⟨op, hp, hop⟩ := step_lobby env e h.sound.indexed
  have hkept : op.keepsMembers = true → Agree (step env e w, R) := fun hk =>
    agree_of_sameMembers h ha hage (by rw [hop]; exact op.sameMembers hk w.lobby)
  cases hp with
  | idle _ => exact hkept rfl
  | gone => exact agree_of_gone h ha hage hh hop
  | expire _ _ => exact hkept rfl
  | request hreq hperf =>
    obtain ⟨h1, h2⟩ := hn _ _ _ hreq
    cases hperf with
    | idle => exact hkept rfl
    | create hp hm => exact absurd ⟨hp, hm⟩ h2
    | join g hp hm _ => exact absurd (.inl ⟨hp, .inl hm⟩) h1
    | leave hp hm => exact absurd (.inl ⟨hp, .inr hm⟩) h1
    | destroy g hp hm _ _ => exact absurd (.inr ⟨hp, hm⟩) h1
    | close _ _ _ => exact hkept rfl
    | reopen _ _ _ => exact hkept rfl
    | report _ _ _ _ _ => exact hkept rfl
    | cancel _ _ _ _ => exact hkept rfl

section
variable {e : Event} {w : World} {R : Rosters} {port : Port} {c : ConnId} {req : Request}
  (h : Ready w) (ha : Agree (w, R)) (hreq : requestOf env w e = some (port, c, req))
  (hh : RequestHeard env w port c req)
include h ha hreq

theorem step_agree_create (h1 : req.proto = 60) (h2 : req.method = 4) :
    Agree (track env e (w, R)) := by
  have hhandler : RMCDispatcher.handlerFor env req = some fun _ c r => Game.createGathering c r :=
    RMCDispatcher.handlerFor_eq env h1 h2 rfl
  obtain ⟨body, w1, -, -, htells⟩ := step_tells env hreq hhandler
  have henter : enter env e w R =
      Function.update R (c, w.lobby.registry.gatheringIdSeq) {(w.heap c).userPid} := by
    unfold enter
    rw [hreq]
    exact if_pos ⟨h1, h2⟩
  rw [track_of_tells env (htells [] (.of_unannounced (.of_same rfl))), henter, deliverAll_nil]
  exact agree_of_create h ha (step_aged env e h.sound.indexed) (step_create env hreq h1 h2)

include hh

theorem step_agree_join (h1 : req.proto = 60) (h2 : req.method = 5) :
    Agree (track env e (w, R)) := by
  have hage := step_aged env e h.sound.indexed
  obtain ⟨body, w1, hr, hlobby, htells⟩ := step_tells env hreq (joinHandler env h1 h2)
  have hadm1 : Game.admitted (w1.logged (.onPayload port c body)) (w1.heap c).userPid req =
      Game.admitted w (w.heap c).userPid req := by
    rw [hr.userPid]
    exact admitted_congr hr.lobby hr.stationUrls _ req
  have henter : enter env e w R = match Game.admitted w (w.heap c).userPid req with
      | none => R
      | some g => Function.update R (c, g.id) ∅ := by
    unfold enter
    rw [hreq]
    simp only [h1, h2]
    rfl
  cases hadm : Game.admitted w (w.heap c).userPid req with
  | none =>
    rw [hadm] at hadm1 henter
    have hrun := Game.joinGathering_refused env _ port c req hadm1
    have hafter : (Game.joinGathering env port c req).after (w1.logged (.onPayload port c body)) =
        w1.logged (.onPayload port c body) := by
      unfold Act.after
      rw [hrun]
    rw [hafter] at hlobby htells
    rw [track_of_tells env (htells [] (.of_unannounced (refl_of Unannounced _))), henter,
      deliverAll_nil]
    refine agree_of_sameMembers h ha hage ?_
    rw [hlobby]
    show Lobby.SameMembers w.lobby w1.lobby
    rw [hr.lobby]
    exact .refl _
  | some g =>
    rw [hadm] at hadm1 henter
    have hheard := hh.1 h1 h2 g hadm
    have hget := (Game.admitted_eq_some hadm).1
    have hid := h.sound.indexed.ids _ g hget
    have hget1 : (w1.logged (.onPayload port c body)).lobby.get g.id = some g := by
      show w1.lobby.get g.id = some g
      rw [hr.lobby, hid]
      exact hget
    have ht := Game.joinGathering_tells env (w := w1.logged (.onPayload port c body)) hadm1 hget1
      (by rw [hid]; exact leadingGid_lt req) (h.owner _ g hget)
      (by
        show (w1.joined c g).participants.length < 2 ^ 32
        rw [joined_congr hr]
        exact length_joined_lt (h.capped _ g hget).four)
      (by
        show AllGo env w1.heap (w1.serverCallId port) (joinPushes w1 port c g) = true
        rw [joinPushes_congr hr, allGo_received env hr]
        exact hheard.2.2)
    change Tells _ _ ((joinPushes w1 port c g).filterMap Push.notice) at ht
    rw [joinPushes_congr hr] at ht
    rw [track_of_tells env (htells _ ht), henter]
    exact agree_of_join env h ha hage (h.sound.of_requestOf env hreq) hadm hheard
      (step_join env hreq h1 h2 hadm)

theorem step_agree_leave (h1 : req.proto = 60) (h2 : req.method = 16) :
    Agree (track env e (w, R)) := by
  have hage := step_aged env e h.sound.indexed
  have hhandler : RMCDispatcher.handlerFor env req =
      some fun port c r => Game.leaveGathering env port c r :=
    RMCDispatcher.handlerFor_eq env h1 h2 rfl
  obtain ⟨body, w1, hr, hlobby, htells⟩ := step_tells env hreq hhandler
  have henter : enter env e w R = R := by
    unfold enter
    rw [hreq]
    simp only [h1, h2]
    rfl
  have hl : (step env e w).lobby =
      (LobbyOp.leave (leadingGid req) (w.heap c).userPid).apply w.lobby := by
    rw [hlobby, (Game.leaveGathering_quiet env _ port c req).lobby]
    show (LobbyOp.leave (leadingGid req) (w1.heap c).userPid).apply w1.lobby = _
    rw [hr.userPid, hr.lobby]
  by_cases hin : ∃ g, w.lobby.get (leadingGid req) = some g ∧ (w.heap c).userPid ∈ g.pids
  · obtain ⟨g, hget, hmem⟩ := hin
    obtain ⟨hport, hgo⟩ := hh.2.1 h1 h2 g hget hmem
    have ht := Game.leaveGathering_tells env (w := w1.logged (.onPayload port c body))
      (show w1.lobby.get (leadingGid req) = some g by rw [hr.lobby]; exact hget)
      (show (w1.heap c).userPid ∈ g.pids by rw [hr.userPid]; exact hmem)
      (by
        show AllGo env w1.heap (w1.serverCallId port) (leavePushes w1 port c (w1.left c g)) = true
        rw [left_congr hr, leavePushes_congr hr, allGo_received env hr]
        exact hgo)
    change Tells _ _ ((leavePushes w1 port c (w1.left c g)).filterMap Push.notice) at ht
    rw [left_congr hr, leavePushes_congr hr] at ht
    rw [track_of_tells env (htells _ ht), henter]
    exact agree_of_leave h ha hage hget hport hl
  · have hout : ∀ g, (w1.logged (.onPayload port c body)).lobby.get (leadingGid req) = some g →
        (w1.heap c).userPid ∉ g.pids := by
      intro g hg hmem
      change w1.lobby.get (leadingGid req) = some g at hg
      rw [hr.lobby] at hg
      rw [hr.userPid] at hmem
      exact hin ⟨g, hg, hmem⟩
    have hsilent := Game.leaveGathering_silent env port hout
    rw [track_of_tells env (htells [] (.of_unannounced hsilent)), henter, deliverAll_nil]
    refine agree_of_sameMembers h ha hage ?_
    rw [hl]
    exact Lobby.SameMembers.leave fun g hg hmem => hin ⟨g, hg, hmem⟩

theorem step_agree_destroy (h1 : req.proto = 21) (h2 : req.method = 36) :
    Agree (track env e (w, R)) := by
  have hage := step_aged env e h.sound.indexed
  have hhandler : RMCDispatcher.handlerFor env req =
      some fun port c r => Matchmaking.destroyGathering env port c r :=
    RMCDispatcher.handlerFor_eq env h1 h2 rfl
  obtain ⟨body, w1, hr, hlobby, htells⟩ := step_tells env hreq hhandler
  have henter : enter env e w R = R := by
    unfold enter
    rw [hreq]
    simp only [h1, h2]
    rfl
  by_cases hown : ∃ g, w.lobby.get (leadingGid req) = some g ∧ (w.heap c).userPid = g.ownerPid
  · obtain ⟨g, hget, howner⟩ := hown
    obtain ⟨ht, hl⟩ := destroyGathering_tells env (w := w1.logged (.onPayload port c body))
      (show w1.lobby.get (leadingGid req) = some g by rw [hr.lobby]; exact hget)
      (show (w1.heap c).userPid = g.ownerPid by rw [hr.userPid]; exact howner)
      (by
        show AllGo env w1.heap (w1.serverCallId port) (leavePushes w1 port c g) = true
        rw [leavePushes_congr hr, allGo_received env hr]
        exact hh.2.2 h1 h2 g hget howner)
    change Tells _ _ ((leavePushes w1 port c g).filterMap Push.notice) at ht
    rw [leavePushes_congr hr] at ht
    rw [track_of_tells env (htells _ ht), henter]
    refine agree_of_destroy h ha hage hget ?_
    rw [hlobby, hl]
    show (LobbyOp.destroy (leadingGid req)).apply w1.lobby = _
    rw [hr.lobby]
  · have hother : ∀ g, (w1.logged (.onPayload port c body)).lobby.get (leadingGid req) = some g →
        (w1.heap c).userPid ≠ g.ownerPid := by
      intro g hg howner
      change w1.lobby.get (leadingGid req) = some g at hg
      rw [hr.lobby] at hg
      rw [hr.userPid] at howner
      exact hown ⟨g, hg, howner⟩
    obtain ⟨hsilent, hl⟩ := destroyGathering_silent env port hother
    rw [track_of_tells env (htells [] (.of_unannounced hsilent)), henter, deliverAll_nil]
    refine agree_of_sameMembers h ha hage ?_
    rw [hlobby, hl]
    show Lobby.SameMembers w.lobby w1.lobby
    rw [hr.lobby]
    exact .refl _

end

structure Inv (s : World × Rosters) : Prop where
  ready : Ready s.1
  agree : Agree s

/-- **One event.** -/
theorem step_agree (e : Event) {w : World} {R : Rosters} (h : Ready w) (ha : Agree (w, R))
    (hh : Hears env e w) : Agree (track env e (w, R)) := by
  cases hreq : requestOf env w e with
  | none =>
    refine step_agree_silent env e h ha hh.2 ?_
    intro port c req hsome
    rw [hreq] at hsome
    cases hsome
  | some r =>
    obtain ⟨port, c, req⟩ := r
    have hheard : RequestHeard env w port c req := hh.1 _ hreq
    by_cases hcreate : req.proto = 60 ∧ req.method = 4
    · exact step_agree_create env h ha hreq hcreate.1 hcreate.2
    by_cases hjoin : req.proto = 60 ∧ req.method = 5
    · exact step_agree_join env h ha hreq hheard hjoin.1 hjoin.2
    by_cases hleave : req.proto = 60 ∧ req.method = 16
    · exact step_agree_leave env h ha hreq hheard hleave.1 hleave.2
    by_cases hdestroy : req.proto = 21 ∧ req.method = 36
    · exact step_agree_destroy env h ha hreq hheard hdestroy.1 hdestroy.2
    refine step_agree_silent env e h ha hh.2 ?_
    intro port' c' req' hsome
    cases hreq.symm.trans hsome
    refine ⟨?_, hcreate⟩
    rintro (⟨h1, h2 | h2⟩ | h12)
    · exact hjoin ⟨h1, h2⟩
    · exact hleave ⟨h1, h2⟩
    · exact hdestroy h12

theorem step_inv (e : Event) (s : World × Rosters) (hh : Hears env e s.1) (h : Inv s) :
    Inv (track env e s) :=
  ⟨step_ready env e hh h.ready, step_agree env e h.ready h.agree hh⟩

/-- **The clients' rosters are the servers' lists**, after every step of a run whose steps
are all heard of. -/
theorem rosters_agree (w : World) (hs : Sound w) (hl : w.lobby = Lobby.empty)
    (hp : ∀ c, (w.heap c).userPid < 2 ^ 32) (R : Rosters) (es : List Event)
    (hg : Guarded (track env) (fun e s => Hears env e s.1) es (w, R)) (n : Nat) :
    Agree (runs (track env) (es.take n) (w, R)) := by
  have hnone : ∀ gid g, w.lobby.get gid ≠ some g := by
    intro gid g hget
    rw [hl] at hget
    cases hget
  have hstart : Inv (w, R) := by
    refine ⟨⟨hs, ?_, hp, ?_, ?_⟩, ?_⟩
    · exact fun gid g hget => absurd hget (hnone gid g)
    · exact fun gid g hget => absurd hget (hnone gid g)
    · exact fun gid g hget => absurd hget (hnone gid g)
    · exact fun gid g hget => absurd hget (hnone gid g)
  rw [← List.take_append_drop n es, guarded_append] at hg
  exact (runs_invariant (step_inv env) _ _ hg.1 hstart).agree

/-- A player creates a lobby, and another joins it. -/
def meet : List Event :=
  [.packet .secure (Sample.remote 1) (Sample.data 1 60 4 []),
   .packet .secure (Sample.remote 2) (Sample.data 1 60 5 (leBytes 4 10000))]

def pair : World :=
  Sample.world [Sample.connection .secure 1 10000, Sample.connection .secure 2 10001]

/-- The guest leaves. -/
def leaves : List Event :=
  meet ++ [.packet .secure (Sample.remote 2) (Sample.data 2 60 16 (leBytes 4 10000))]

/-- The guest's console is switched off. -/
def dies : List Event :=
  meet ++ [.packet .secure (Sample.remote 2) { Sample.syn with type := .disconnect }]

theorem pair_pid (c : ConnId) : (pair.heap c).userPid < 2 ^ 32 := by
  match c with
  | 0 => decide
  | 1 => decide
  | c + 2 => show 0 < 2 ^ 32; decide

theorem rosters_agree_leaves :
    (runs (track Sample.env) leaves (pair, fun _ => ∅)).2 (0, 10000) = {10000} ∧
      Agree (runs (track Sample.env) (leaves.take 3) (pair, fun _ => ∅)) :=
  ⟨by decide +kernel,
    rosters_agree Sample.env pair (Sample.world_sound _) rfl pair_pid (fun _ => ∅) leaves
      (by decide +kernel) 3⟩

/-- The host is not told that the guest has gone. -/
theorem ghost_after_disconnect :
    ¬ ∀ n, Agree (runs (track Sample.env) (dies.take n) (pair, fun _ => ∅)) := by
  intro h
  have hrun : ((runs (track Sample.env) dies (pair, fun _ => ∅)).1.lobby.get 10000).map
        (fun g => g.participants.map fun p => (p.pid, p.conn)) = some [(10000, some 0)] ∧
      Live (runs (track Sample.env) dies (pair, fun _ => ∅)).1 0 ∧
      (runs (track Sample.env) dies (pair, fun _ => ∅)).2 (0, 10000) = {10000, 10001} := by
    decide +kernel
  obtain ⟨g, hg, hps⟩ := Option.map_eq_some_iff.mp hrun.1
  obtain ⟨p, hp, he⟩ := List.map_eq_singleton_iff.mp hps
  have hroster := h 3 10000 g hg p (by rw [hp]; exact List.mem_singleton_self p) 0
    (congrArg Prod.snd he) hrun.2.1
  have hghost : 10001 ∈ g.pids.toFinset := by
    rw [← hroster]
    show 10001 ∈ (runs (track Sample.env) dies (pair, fun _ => ∅)).2 (0, 10000)
    rw [hrun.2.2]
    decide
  unfold Gathering.pids at hghost
  rw [hp] at hghost
  rw [List.mem_toFinset, List.map_singleton, List.mem_singleton] at hghost
  exact absurd (hghost.trans (congrArg Prod.fst he)) (by decide)

end Roster
end Ghostbusters
