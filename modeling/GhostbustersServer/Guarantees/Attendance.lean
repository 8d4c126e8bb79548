import GhostbustersServer.Guarantees.Keepalive

/-!
# Who is still there

A player is listed under the address it came from, and the close hooks go by addresses.

    Attended w        at every address that a lobby knows there is a connection
    nobody_lingers    so under the reaper task, whoever is listed has been heard of a moment ago
    deserted          and if nobody is heard of for that long, nothing is left
-/

namespace Ghostbusters
namespace Attendance

open Py Act PRUDPServer History Keepalive

/-- Where the host and the players of a lobby are. -/
def remotes (g : Gathering) : List Remote := g.ownerRemote :: g.participants.map (·.remote)

/-- There is a connection at the address, on one port or the other. -/
def Reached (w : World) (remote : Remote) : Prop :=
  ∃ port c, (w.connections port).get? remote = some c

def Attended (w : World) : Prop :=
  ∀ gid g, w.lobby.get gid = some g → ∀ remote ∈ remotes g, Reached w remote

/-! ## Moves of the lobbies -/

/-- From where a move brings somebody in. -/
def arrival : LobbyOp → Option Remote
  | .create _ remote _ _ => some remote
  | .join _ _ _ remote _ => some remote
  | _ => none

theorem remotes_of_unbatched {g g' : Gathering} (h : g.unbatched = g'.unbatched) :
    remotes g = remotes g' := (congrArg remotes h :)

theorem mem_remotes_joined {ps : List Participant} {pid : Nat} {name : Str} {remote r : Remote}
    {conn : ConnId}
    (h : r ∈ (GatheringRegistry.joined ps pid name remote (some conn)).map (·.remote)) :
    r ∈ ps.map (·.remote) ∨ r = remote := by
  obtain ⟨p, hp, rfl⟩ := List.mem_map.mp h
  rcases GatheringRegistry.mem_joined hp with hold | ⟨-, -, hremote⟩
  · exact .inl (List.mem_map_of_mem hold)
  · unfold GatheringRegistry.listedRemote at hremote
    split at hremote
    · next q hq =>
      rw [hremote]
      exact .inl (List.mem_map_of_mem (List.mem_of_find?_eq_some hq))
    · exact .inr hremote

/-- **An address in a lobby after a move** was there before, or is that of who comes in. -/
theorem remotes_apply {l : Lobby} (hi : l.registry.WellIndexed) (op : LobbyOp) {gid : Nat}
    {g' : Gathering} (hg' : (op.apply l).get gid = some g') {r : Remote} (hr : r ∈ remotes g') :
    (∃ g, l.get gid = some g ∧ r ∈ remotes g) ∨ arrival op = some r := by
  rcases op.back hi hg' with ⟨g, hg, ho, hps⟩ | ⟨pid, remote, raw, conn, rfl, -, rfl⟩
  · have howner : g'.ownerRemote = g.ownerRemote := (congrArg Gathering.ownerRemote ho :)
    unfold remotes at hr
    rw [howner] at hr
    rcases List.mem_cons.mp hr with rfl | hr
    · exact .inl ⟨g, hg, List.mem_cons_self⟩
    generalize g'.participants = qs at hps hr
    cases hps with
    | kept hsub =>
      exact .inl ⟨g, hg, List.mem_cons_of_mem _ ((hsub.map _).subset hr)⟩
    | @joined pid name remote conn hop =>
      rcases mem_remotes_joined hr with hr | rfl
      · exact .inl ⟨g, hg, List.mem_cons_of_mem _ hr⟩
      · rw [hop]
        exact .inr rfl
  · right
    have hsame : r = remote := by simpa [remotes, GatheringRegistry.newGathering] using hr
    rw [hsame]
    rfl

/-- The addresses that have hung up are gone from the lobbies. -/
theorem remotes_gone {l : Lobby} (hi : l.registry.WellIndexed) (rs : List Remote) {gid : Nat}
    {g' : Gathering} (hg' : ((LobbyOp.gone rs).apply l).get gid = some g') {r : Remote}
    (hr : r ∈ remotes g') : (∃ g, l.get gid = some g ∧ r ∈ remotes g) ∧ r ∉ rs := by
  obtain ⟨g, hg, howner, rfl⟩ := (Lobby.get_gone hi rs gid g').mp hg'
  rcases List.mem_cons.mp hr with rfl | hr
  · exact ⟨⟨g, hg, List.mem_cons_self⟩, howner⟩
  · obtain ⟨p, hp, rfl⟩ := List.mem_map.mp hr
    obtain ⟨hp, hstays⟩ := List.mem_filter.mp hp
    exact ⟨⟨g, hg, List.mem_cons_of_mem _ (List.mem_map_of_mem hp)⟩, of_decide_eq_true hstays⟩

variable (env : Env)

/-- Who comes in by a request is who sent it. -/
theorem arrival_requestMove {w : World} {port : Port} {c : ConnId} {req : Request} {r : Remote}
    (h : arrival (requestMove env w port c req) = some r) : r = (w.heap c).remote := by
  unfold requestMove at h
  split at h
  · cases h
    rfl
  · split at h
    · cases h
    · cases h
      rfl
  · cases h
  · split at h <;> cases h
  · split at h <;> cases h
  · split at h
    · cases h
    · split at h <;> cases h
  · cases h

/-! ## One event -/

/-- An address that does not hang up is still reached: at worst it starts again. -/
theorem step_reached (e : Event) {w : World} (hs : Sound w) {r : Remote} (h : Reached w r)
    (hr : r ∉ hangups env w e) : Reached (step env e w) r := by
  obtain ⟨port, c, hc⟩ := h
  have hopens : ∀ pkt, e = .packet port r pkt → pkt.type = .syn → Reached (step env e w) r := by
    rintro pkt rfl ht
    exact ⟨port, w.nextConn, (step_table env _ hs port r _).mpr (.inl ⟨rfl, rfl, ht, rfl⟩)⟩
  by_cases hhang : HangsUp env port r e w
  swap
  · exact ⟨port, c, (step_table env e hs port r c).mpr (.inr ⟨hc, hhang⟩)⟩
  cases e with
  | packet port' remote' pkt =>
    obtain ⟨rfl, rfl, hsyn | hin⟩ := hhang
    · exact hopens pkt rfl hsyn
    · exact absurd hin hr
  | reap => exact absurd hhang.2 hr
  | timer => exact hhang.elim
  | elapse => exact hhang.elim

/-- **Every event.** -/
theorem step_attended (e : Event) {w : World} (hs : Sound w) (h : Attended w) :
    Attended (step env e w) := by
  intro gid g' hg' r hr
  have hsame := (step_moveOf env e hs.indexed) gid
  rw [hg', Option.map_some] at hsame
  obtain ⟨g1, hg1, hun⟩ := Option.map_eq_some_iff.mp hsame.symm
  rw [← remotes_of_unbatched hun] at hr
  have hold : (∃ g, w.lobby.get gid = some g ∧ r ∈ remotes g) → Reached w r :=
    fun ⟨g, hg, hr⟩ => h gid g hg r hr
  unfold moveOf at hg1
  cases hreq : requestOf env w e with
  | none =>
    simp only [hreq] at hg1
    obtain ⟨hin, hout⟩ := remotes_gone hs.indexed _ hg1 hr
    exact step_reached env e hs (hold hin) hout
  | some q =>
    obtain ⟨port, c, req⟩ := q
    simp only [hreq] at hg1
    have hnone : r ∉ hangups env w e := by
      rw [hangups_of_request env hreq]
      exact List.not_mem_nil
    refine step_reached env e hs ?_ hnone
    rcases remotes_apply hs.indexed _ hg1 hr with hin | harrive
    · exact hold hin
    · -- who comes in has just been heard of
      obtain ⟨remote, hc, -⟩ := established_of_requestOf env hreq
      rw [arrival_requestMove env harrive, (hs.home port remote c hc).2]
      exact ⟨port, c, hc⟩

/-! ## Under the reaper -/

variable (tick : Nat)

theorem act_attended (a : Activity) {p : Process} (hs : Sound p.world) (h : Attended p.world) :
    Attended (p.act env tick a).world :=
  (runs_preserves (I := fun w => Sound w ∧ Attended w)
    (fun e _ hw => ⟨step_sound env e hw.1, step_attended env e hw.1 hw.2⟩) (a.events tick p) p.world
    ⟨hs, h⟩).2

theorem reachable_attended (as : List Activity) :
    Attended (runs (Process.act env tick) as (Process.start tick)).world :=
  (runs_preserves (I := fun p => Timed tick p ∧ Attended p.world)
    (fun a _ h => ⟨h.1.act env tick a, act_attended env tick a h.1.sound h.2⟩) as _
    ⟨start_timed tick, nofun⟩).2

/-- **No ghosts.**  Whatever clients do, at any moment at which the event loop is behind with
the reaper by no more than `late`, each address at which a lobby has its host or a player is
that of a connection that has been idle for no longer than the timeout, the interval and
`late`. -/
theorem nobody_lingers (as : List Activity) (late : Nat)
    (hlate : (runs (Process.act env tick) as (Process.start tick)).world.now ≤
      (runs (Process.act env tick) as (Process.start tick)).due + late)
    (gid : Nat) (g : Gathering)
    (hg : (runs (Process.act env tick) as (Process.start tick)).world.lobby.get gid = some g) :
    ∀ remote ∈ remotes g, ∃ port c,
      ((runs (Process.act env tick) as (Process.start tick)).world.connections port).get? remote =
        some c ∧
      Reaping.idle (runs (Process.act env tick) as (Process.start tick)).world c ≤
        (idleTimeoutSeconds + reapIntervalSeconds) * tick + late := by
  intro remote hr
  obtain ⟨port, c, hc⟩ := reachable_attended env tick as gid g hg remote hr
  exact ⟨port, c, hc, (reachable_timed env tick as).idle_le tick hlate hc⟩

/-! ## When nobody is heard of -/

/-- Nobody has been heard of since `t`. -/
def Unheard (t : Nat) (w : World) : Prop :=
  ∀ port remote c, (w.connections port).get? remote = some c → (w.heap c).lastActivity ≤ t

def IsPacket : Event → Prop
  | .packet .. => True
  | _ => False

theorem step_unheard {t : Nat} {e : Event} (he : ¬ IsPacket e) {w : World} (hs : Sound w)
    (h : Unheard t w) : Unheard t (step env e w) := by
  intro port remote c hend
  have hopens : ¬ Opens port remote c e w := by
    cases e <;> first | exact absurd trivial he | exact id
  have hc := (((step_table env e hs port remote c).mp hend).resolve_left hopens).1
  have hown : own port remote e = none := by
    cases e <;> first | exact absurd trivial he | rfl
  rw [lastActivity_of_placed env (placed_of_listed hs hc) hown]
  exact h port remote c hc

theorem act_unheard {t : Nat} {a : Activity} (ha : ∀ port remote pkt, a ≠ .packet port remote pkt)
    {p : Process} (hs : Sound p.world) (h : Unheard t p.world) :
    Unheard t (p.act env tick a).world := by
  have hquiet : ∀ e ∈ a.events tick p, ¬ IsPacket e := by
    cases a with
    | packet port remote pkt => exact absurd rfl (ha port remote pkt)
    | timer => simp [Activity.events, IsPacket]
    | elapse => simp [Activity.events, IsPacket]
    | wake =>
      show ∀ e ∈ if p.due ≤ p.world.now then reaperVisit tick else [], ¬ IsPacket e
      split <;> simp [reaperVisit, IsPacket]
  unfold Process.act
  dsimp only
  generalize a.events tick p = es at hquiet
  generalize p.world = w at hs h
  induction es generalizing w with
  | nil => exact h
  | cons e es ih =>
    exact ih (fun e' he' => hquiet e' (List.mem_cons_of_mem _ he')) _ (step_sound env e hs)
      (step_unheard env (hquiet e List.mem_cons_self) hs h)

theorem acts_unheard {t : Nat} (bs : List Activity)
    (hquiet : ∀ port remote pkt, Activity.packet port remote pkt ∉ bs) {p : Process}
    (hp : Timed tick p) (h : Unheard t p.world) :
    Unheard t (runs (Process.act env tick) bs p).world := by
  induction bs generalizing p with
  | nil => exact h
  | cons a bs ih =>
    refine ih (fun port remote pkt hm => hquiet port remote pkt (List.mem_cons_of_mem _ hm))
      (hp.act env tick a) (act_unheard env tick ?_ hp.sound h)
    rintro port remote pkt rfl
    exact hquiet port remote pkt List.mem_cons_self

/-- **A server that hears of nobody forgets everybody.**  Once no packet has arrived for
longer than the timeout, the interval and the lateness of the event loop, both tables are
empty, and no lobby is left. -/
theorem deserted (as bs : List Activity)
    (hquiet : ∀ port remote pkt, Activity.packet port remote pkt ∉ bs) (late : Nat)
    (hlate : (runs (Process.act env tick) (as ++ bs) (Process.start tick)).world.now ≤
      (runs (Process.act env tick) (as ++ bs) (Process.start tick)).due + late)
    (hlong : (runs (Process.act env tick) as (Process.start tick)).world.now +
        ((idleTimeoutSeconds + reapIntervalSeconds) * tick + late) <
      (runs (Process.act env tick) (as ++ bs) (Process.start tick)).world.now) :
    (∀ port remote, ((runs (Process.act env tick) (as ++ bs) (Process.start tick)).world.connections
        port).get? remote = none) ∧
      ∀ gid, (runs (Process.act env tick) (as ++ bs) (Process.start tick)).world.lobby.get gid =
        none := by
  have hthen := reachable_timed env tick as
  have hnow := reachable_timed env tick (as ++ bs)
  have hunheard : Unheard (runs (Process.act env tick) as (Process.start tick)).world.now
      (runs (Process.act env tick) (as ++ bs) (Process.start tick)).world := by
    rw [runs_append]
    exact acts_unheard env tick bs hquiet hthen hthen.clocked
  have hattended := reachable_attended env tick (as ++ bs)
  generalize runs (Process.act env tick) (as ++ bs) (Process.start tick) = p at *
  have htables : ∀ port remote, (p.world.connections port).get? remote = none := by
    intro port remote
    rw [Option.eq_none_iff_forall_ne_some]
    intro c hc
    have hidle := hnow.idle_le tick hlate hc
    have hlast := hunheard port remote c hc
    unfold Reaping.idle at hidle
    omega
  refine ⟨htables, fun gid => ?_⟩
  rw [Option.eq_none_iff_forall_ne_some]
  intro g hg
  obtain ⟨port, c, hc⟩ := hattended gid g hg g.ownerRemote List.mem_cons_self
  cases (htables port g.ownerRemote).symm.trans hc

/-- A client connects, without a ticket, and hosts a lobby. -/
def hosting : List Activity :=
  [.packet .secure (Sample.remote 1) Sample.syn,
   .packet .secure (Sample.remote 1) (Sample.connect []),
   .packet .secure (Sample.remote 1) (Sample.data 1 60 4 [])]

/-- Two minutes in which the reaper is looked at twice. -/
def silentMinutes : List Activity := [.elapse 20, .wake, .elapse 100, .wake]

theorem nobody_lingers_host : ∃ port c,
    ((runs (Process.act Sample.env 1) (hosting ++ silentMinutes.take 2)
      (Process.start 1)).world.connections port).get? (Sample.remote 1) = some c ∧
    Reaping.idle (runs (Process.act Sample.env 1) (hosting ++ silentMinutes.take 2)
      (Process.start 1)).world c ≤ (idleTimeoutSeconds + reapIntervalSeconds) * 1 + 0 :=
  nobody_lingers Sample.env 1 (hosting ++ silentMinutes.take 2) 0 (by decide +kernel) 10000
    (GatheringRegistry.newGathering 10000 0 (Sample.remote 1) [] (some 0)) (by decide +kernel)
    (Sample.remote 1) (by decide +kernel)

theorem deserted_minutes :
    (∀ port remote, ((runs (Process.act Sample.env 1) (hosting ++ silentMinutes)
        (Process.start 1)).world.connections port).get? remote = none) ∧
      ∀ gid, (runs (Process.act Sample.env 1) (hosting ++ silentMinutes)
        (Process.start 1)).world.lobby.get gid = none :=
  deserted Sample.env 1 hosting silentMinutes (by simp [silentMinutes]) 0 (by decide +kernel)
    (by decide +kernel)

end Attendance
end Ghostbusters
