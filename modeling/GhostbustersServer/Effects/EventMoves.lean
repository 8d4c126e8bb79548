import GhostbustersServer.Effects.Moves
import GhostbustersServer.Effects.Pushes

/-!
# The move of an event

`step_lobby` says which moves an event may make.  But for the state of the batches, its move
is a function of the event and of the state it comes to.

    moveOf            the move of an event
    step_moveOf       it is what the server makes of the lobbies
    alive_apply  listed_apply  locked_apply
                      what a move starts and what it ends, for one lobby
-/

namespace Ghostbusters

open Py Act PRUDPServer

variable (env : Env)

/-- The remotes that an event hangs up.  A DISCONNECT of a connection counts once its
acknowledgment is out. -/
def hangups (w : World) : Event → List Remote
  | .packet port remote pkt =>
    if pkt.type = .disconnect ∧ ∀ c ∈ (w.connections port).get? remote,
        env.packetEncodes (ackPacket (w.heap c) .disconnect pkt.packetId) then [remote] else []
  | .reap port timeout => staleRemotes w port timeout
  | _ => []

theorem hangups_of_request {e : Event} {w : World} {port : Port} {c : ConnId} {req : Request}
    (hreq : requestOf env w e = some (port, c, req)) : hangups env w e = [] := by
  unfold requestOf at hreq
  split at hreq
  · cases hreq
  · next hb =>
    obtain ⟨remote, pkt, rfl, ht, -⟩ := bodyOf_eq_some env hb
    refine if_neg fun h => ?_
    cases ht.symm.trans h.1

theorem hangups_syn (w : World) (port : Port) (remote : Remote) {pkt : PRUDPPacket}
    (ht : pkt.type = .syn) : hangups env w (.packet port remote pkt) = [] := by
  refine if_neg fun h => ?_
  cases ht.symm.trans h.1

theorem requestOf_syn (w : World) (port : Port) (remote : Remote) {pkt : PRUDPPacket}
    (ht : pkt.type = .syn) : requestOf env w (.packet port remote pkt) = none := by
  cases hreq : requestOf env w (.packet port remote pkt) with
  | none => rfl
  | some r =>
    unfold requestOf at hreq
    split at hreq
    · cases hreq
    · next hb =>
      obtain ⟨_, _, he, hdata, -⟩ := bodyOf_eq_some env hb
      cases he
      cases ht.symm.trans hdata

/-- The move of a request. -/
def requestMove (w : World) (port : Port) (c : ConnId) (req : Request) : LobbyOp :=
  match req.proto, req.method with
  | 60, 4 => .create (w.heap c).userPid (w.heap c).remote req.params c
  | 60, 5 =>
    match Game.admitted w (w.heap c).userPid req with
    | none => .idle
    | some g =>
      .join g.id (w.heap c).userPid (pidName (w.heap c).userPid) (w.heap c).remote c
  | 60, 16 => .leave (leadingGid req) (w.heap c).userPid
  | 60, 19 => if leadingGid req = 0 then .idle else .close (leadingGid req)
  | 60, 23 => if leadingGid req = 0 then .idle else .reopen (leadingGid req)
  | 21, 36 =>
    match w.lobby.get (leadingGid req) with
    | none => .idle
    | some g =>
      -- the others are told first: a lobby whose end cannot be told stays
      if (w.heap c).userPid = g.ownerPid ∧
          AllGo env w.heap (w.serverCallId port) (leavePushes w port c g) then
        .destroy (leadingGid req)
      else .idle
  | _, _ => .idle

def moveOf (e : Event) (w : World) : LobbyOp :=
  match requestOf env w e with
  | some (port, c, req) => requestMove env w port c req
  | none => .gone (hangups env w e)

/-! ## It is what the server does -/

/-- A lobby whose end cannot be told. -/
theorem destroyGathering_unsent {w : World} {port : Port} {c : ConnId} {req : Request}
    {g : Gathering} (hg : w.lobby.get (leadingGid req) = some g)
    (howner : (w.heap c).userPid = g.ownerPid)
    (hgo : AllGo env w.heap (w.serverCallId port) (leavePushes w port c g) = false) :
    ((Matchmaking.destroyGathering env port c req).after w).lobby = w.lobby := by
  obtain ⟨e, w1, hr⟩ := sendAll_fails env port (leavePushes w port c g) w hgo
  have hb := broadcast_run env (refl_of SameView w) port g.participants (w.heap c).userPid
    Notification.eventEndParticipation g.id
  have hpush : (Notification.pushLeave env port g (w.heap c).userPid).run w = (.error e, w1) :=
    hb.trans hr
  have hq := Notification.broadcast_quiet env port g.participants (w.heap c).userPid
    Notification.eventEndParticipation g.id w
  unfold WithinAt at hq
  change Quiet w ((Notification.pushLeave env port g (w.heap c).userPid).run w).2 at hq
  rw [hpush] at hq
  unfold Matchmaking.destroyGathering Srv.conn after
  simp only [run_bind, run_get, run_pure, hg, if_pos howner, hpush]
  exact hq.lobby

section
variable {e : Event} {w : World} {port : Port} {c : ConnId} {req : Request}
  (hreq : requestOf env w e = some (port, c, req))
include hreq

theorem step_leave (h1 : req.proto = 60) (h2 : req.method = 16) :
    (step env e w).lobby = (LobbyOp.leave (leadingGid req) (w.heap c).userPid).apply w.lobby := by
  have hhandler : RMCDispatcher.handlerFor env req =
      some fun port c r => Game.leaveGathering env port c r :=
    RMCDispatcher.handlerFor_eq env h1 h2 rfl
  refine lobby_of_handler env hreq hhandler fun w2 hl hs => ?_
  have hpid : (w2.heap c).userPid = (w.heap c).userPid := (congrArg Connection.userPid (hs c) :)
  rw [(Game.leaveGathering_quiet env w2 port c req).lobby, hpid, ← hl]
  rfl

theorem step_destroy (h1 : req.proto = 21) (h2 : req.method = 36) {g : Gathering}
    (hg : w.lobby.get (leadingGid req) = some g) (howner : (w.heap c).userPid = g.ownerPid) :
    (step env e w).lobby =
      if AllGo env w.heap (w.serverCallId port) (leavePushes w port c g) then
        (LobbyOp.destroy (leadingGid req)).apply w.lobby
      else w.lobby := by
  have hhandler : RMCDispatcher.handlerFor env req =
      some fun port c r => Matchmaking.destroyGathering env port c r :=
    RMCDispatcher.handlerFor_eq env h1 h2 rfl
  obtain ⟨body, w1, hr, hmute⟩ := step_handled env hreq hhandler
  let w2 := w1.logged (.onPayload port c body)
  have hg2 : w2.lobby.get (leadingGid req) = some g := by
    rw [← hg, ← hr.lobby]
    rfl
  have howner2 : (w2.heap c).userPid = g.ownerPid := (hr.userPid c).trans howner
  have hgo : AllGo env w2.heap (w2.serverCallId port) (leavePushes w2 port c g) =
      AllGo env w.heap (w.serverCallId port) (leavePushes w port c g) := by
    show AllGo env w1.heap (w1.serverCallId port) (leavePushes w1 port c g) = _
    rw [leavePushes_congr hr, allGo_received env hr]
  rw [hmute.lobby, ← hgo, ← show w2.lobby = w.lobby from hr.lobby]
  split
  · next h => exact (destroyGathering_tells env hg2 howner2 h).2
  · next h => exact destroyGathering_unsent env hg2 howner2 (Bool.not_eq_true _ ▸ h)

/-- **The requests that leave players and locks alone.** -/
theorem still_of_request (hw : w.lobby.registry.WellIndexed)
    (hcreate : req.proto = 60 → req.method ≠ 4)
    (hjoin : req.proto = 60 → req.method = 5 → Game.admitted w (w.heap c).userPid req = none)
    (hleave : req.proto = 60 → req.method ≠ 16)
    (hlock : req.proto = 60 → req.method = 19 ∨ req.method = 23 → leadingGid req = 0)
    (hdestroy : req.proto = 21 → req.method = 36 → ∀ g, w.lobby.get (leadingGid req) = some g →
      (w.heap c).userPid ≠ g.ownerPid) :
    Lobby.SameButBatches w.lobby (step env e w).lobby := by
  obtain ⟨op, hp, hop⟩ := step_performs env hreq hw
  rw [hop]
  cases hp with
  | idle => exact .refl _
  | create h1 h2 => exact absurd h2 (hcreate h1)
  | join g h1 h2 hadm => cases (hjoin h1 h2).symm.trans hadm
  | leave h1 h2 => exact absurd h2 (hleave h1)
  | destroy g h1 h2 hg howner => exact absurd howner (hdestroy h1 h2 g hg)
  | close h1 h2 h0 => exact absurd (hlock h1 (.inl h2)) h0
  | reopen h1 h2 h0 => exact absurd (hlock h1 (.inr h2)) h0
  | report clear => exact .report _ _ _ _ clear
  | cancel g => exact .cancel _ g.id

theorem step_requestMove (hw : w.lobby.registry.WellIndexed) :
    Lobby.SameButBatches ((requestMove env w port c req).apply w.lobby) (step env e w).lobby := by
  have hstill := still_of_request env hreq hw
  unfold requestMove
  split
  · next h1 h2 =>
    rw [step_create env hreq h1 h2]
    exact .refl _
  · next h1 h2 =>
    split
    · next hadm => exact hstill (by omega) (fun _ _ => hadm) (by omega) (by omega) (by omega)
    · next g hadm =>
      rw [step_join env hreq h1 h2 hadm]
      exact .refl _
  · next h1 h2 =>
    rw [step_leave env hreq h1 h2]
    exact .refl _
  · next h1 h2 =>
    split
    · next h0 => exact hstill (by omega) (by omega) (by omega) (fun _ _ => h0) (by omega)
    · next h0 =>
      rw [step_close env hreq h1 h2 h0]
      exact .refl _
  · next h1 h2 =>
    split
    · next h0 => exact hstill (by omega) (by omega) (by omega) (fun _ _ => h0) (by omega)
    · next h0 =>
      rw [step_reopen env hreq h1 h2 h0]
      exact .refl _
  · next h1 h2 =>
    split
    · next hg =>
      refine hstill (by omega) (by omega) (by omega) (by omega) fun _ _ g hg' => ?_
      cases hg.symm.trans hg'
    · next g hg =>
      by_cases howner : (w.heap c).userPid = g.ownerPid
      · rw [step_destroy env hreq h1 h2 hg howner]
        simp only [howner, true_and]
        split <;> exact .refl _
      · rw [if_neg fun h => howner h.1]
        refine hstill (by omega) (by omega) (by omega) (by omega) fun _ _ g' hg' => ?_
        cases hg.symm.trans hg'
        exact howner
  · next h4 h5 h16 h19 h23 h36 =>
    refine hstill (fun h1 h2 => h4 h1 h2) (fun h1 h2 => (h5 h1 h2).elim) (fun h1 h2 => h16 h1 h2)
      ?_ fun h1 h2 => (h36 h1 h2).elim
    rintro h1 (h2 | h2)
    · exact (h19 h1 h2).elim
    · exact (h23 h1 h2).elim

end

/-- **A DISCONNECT** evicts its remote, or nobody. -/
theorem step_disconnect {port : Port} {remote : Remote} {pkt : PRUDPPacket}
    (ht : pkt.type = .disconnect) (w : World) :
    ∃ w1 : World, w1.lobby = w.lobby ∧ w1.connections = w.connections ∧
      step env (.packet port remote pkt) w =
        (hangups env w (.packet port remote pkt)).foldl (fun w remote => w.evicted port remote) w1 := by
  unfold hangups
  simp only [ht, true_and]
  cases hc : (w.connections port).get? remote with
  | none =>
    refine ⟨w, rfl, rfl, ?_⟩
    unfold step handleEvent handle after
    rw [run_get_bind, if_pos (by simp)]
    simp only [ht, hc]
    rfl
  | some c =>
    have hstep := step_packet env hc pkt
    simp only [ht] at hstep
    rw [hstep, handleDisconnect_spec]
    simp only [Option.mem_def, Option.some.injEq, forall_eq']
    split
    · refine ⟨(w.logged (.sendto (w.heap c).remote
        (ackPacket (w.heap c) .disconnect pkt.packetId))).withConn c
          { w.heap c with state := .closed }, rfl, rfl, rfl⟩
    · exact ⟨w, rfl, rfl, rfl⟩

/-- **The events that bring no request.** -/
theorem step_hangups {e : Event} {w : World} (hn : requestOf env w e = none)
    (hw : w.lobby.registry.WellIndexed) :
    Lobby.SameButBatches ((LobbyOp.gone (hangups env w e)).apply w.lobby) (step env e w).lobby := by
  -- what `step_lobby` leaves when no hook runs
  have hquiet : hangups env w e = [] → closing w e = [] →
      Lobby.SameButBatches ((LobbyOp.gone (hangups env w e)).apply w.lobby) (step env e w).lobby := by
    intro hnone hclosing
    obtain ⟨op, hp, hop⟩ := step_lobby env e hw
    rw [hnone, hop]
    show Lobby.SameButBatches w.lobby _
    cases hp with
    | idle => exact .refl _
    | request hreq => cases hn.symm.trans hreq
    | gone =>
      rw [hclosing]
      exact .refl _
    | @expire id clear => exact .expire _ id clear
  cases e with
  | packet port remote pkt =>
    by_cases ht : pkt.type = .disconnect
    · obtain ⟨w1, hl, -, hstep⟩ := step_disconnect env ht w
      rw [hstep, lobby_foldl_evicted, hl]
      exact .refl _
    · exact hquiet (if_neg fun h => ht h.1) (if_neg ht)
  | reap port timeout =>
    have hstep : step env (.reap port timeout) w =
        (staleRemotes w port timeout).foldl (fun w remote => w.evicted port remote) w :=
      reapIdle_spec port timeout w
    rw [hstep, lobby_foldl_evicted]
    exact .refl _
  | timer id => exact hquiet rfl rfl
  | elapse dt => exact hquiet rfl rfl

/-- **Refinement, move by move.** -/
theorem step_moveOf (e : Event) {w : World} (hw : w.lobby.registry.WellIndexed) :
    Lobby.SameButBatches ((moveOf env e w).apply w.lobby) (step env e w).lobby := by
  unfold moveOf
  split
  · next hreq => exact step_requestMove env hreq hw
  · next hn => exact step_hangups env hn hw

/-! ## What a move starts and ends -/

/-- Lobby `gid` is created. -/
def LobbyOp.Founds (op : LobbyOp) (l : Lobby) (gid : Nat) : Prop :=
  match op with
  | .create .. => gid = l.registry.gatheringIdSeq
  | _ => False

/-- Lobby `gid` ends: its owner destroys it or creates another one, or its host's remote
hangs up. -/
def LobbyOp.Ends (op : LobbyOp) (l : Lobby) (gid : Nat) : Prop :=
  match op with
  | .create pid _ _ _ => l.registry.ownerOf gid = some pid
  | .destroy k => k = gid
  | .gone remotes => ∃ g ∈ l.get gid, g.ownerRemote ∈ remotes
  | _ => False

/-- A player gets into lobby `gid`. -/
def LobbyOp.Seats (op : LobbyOp) (l : Lobby) (gid pid : Nat) : Prop :=
  match op with
  | .create p _ _ _ => gid = l.registry.gatheringIdSeq ∧ p = pid
  | .join k p _ _ _ => k = gid ∧ p = pid ∧ (l.get gid).isSome
  | _ => False

/-- A player is no longer in lobby `gid`: the lobby ends, the player leaves, or every remote
it is listed with hangs up. -/
def LobbyOp.Unseats (op : LobbyOp) (l : Lobby) (gid pid : Nat) : Prop :=
  match op with
  | .leave k p => k = gid ∧ p = pid
  | .gone remotes => ∀ g ∈ l.get gid, g.ownerRemote ∈ remotes ∨
      ∀ p ∈ g.participants, p.pid = pid → p.remote ∈ remotes
  | op => op.Ends l gid

def LobbyOp.Locks (op : LobbyOp) (l : Lobby) (gid : Nat) : Prop :=
  match op with
  | .close k => k = gid ∧ (l.get gid).isSome
  | _ => False

def LobbyOp.Unlocks (op : LobbyOp) (l : Lobby) (gid : Nat) : Prop :=
  match op with
  | .reopen k => k = gid
  | op => op.Ends l gid

namespace Lobby

def Listed (l : Lobby) (gid pid : Nat) : Prop := ∃ g ∈ l.get gid, pid ∈ g.pids

def Locked (l : Lobby) (gid : Nat) : Prop := ∃ g ∈ l.get gid, g.closed = true

theorem SameButBatches.isSome_iff {l l' : Lobby} (h : SameButBatches l l') (gid : Nat) :
    (l'.get gid).isSome ↔ (l.get gid).isSome := by
  have hk := congrArg Option.isSome (h gid)
  rw [Option.isSome_map, Option.isSome_map] at hk
  rw [hk]

theorem SameMembers.listed_iff {l l' : Lobby} (h : SameMembers l l') (gid pid : Nat) :
    l'.Listed gid pid ↔ l.Listed gid pid := by
  have hview : ∀ a : Lobby, a.Listed gid pid ↔
      ∃ g ∈ (a.get gid).map Gathering.membership, pid ∈ g.pids := by
    intro a
    unfold Listed
    simp only [Option.mem_def, Option.map_eq_some_iff, exists_exists_and_eq_and]
    rfl
  rw [hview, hview, h gid]

theorem SameButBatches.locked_same {l l' : Lobby} (h : SameButBatches l l') (gid : Nat) :
    l'.Locked gid ↔ l.Locked gid := by
  have hview : ∀ a : Lobby, a.Locked gid ↔
      ∃ g ∈ (a.get gid).map Gathering.unbatched, g.closed = true := by
    intro a
    unfold Locked
    simp only [Option.mem_def, Option.map_eq_some_iff, exists_exists_and_eq_and]
    rfl
  rw [hview, hview, h gid]

end Lobby

section
variable {l : Lobby} (hi : l.registry.WellIndexed)
include hi

theorem get_create_of_ne (pid : Nat) (remote : Remote) (raw : Bytes) (c : ConnId) {gid : Nat}
    (hne : gid ≠ l.registry.gatheringIdSeq) :
    ((LobbyOp.create pid remote raw c).apply l).get gid =
      if l.registry.ownerOf gid = some pid then none else l.get gid :=
  (GatheringRegistry.get_create _ hi pid remote raw (some c) gid).trans (if_neg hne)

theorem get_create_self (pid : Nat) (remote : Remote) (raw : Bytes) (c : ConnId) :
    ((LobbyOp.create pid remote raw c).apply l).get l.registry.gatheringIdSeq =
      some (GatheringRegistry.newGathering l.registry.gatheringIdSeq pid remote raw (some c)) :=
  (GatheringRegistry.get_create _ hi pid remote raw (some c) _).trans (if_pos rfl)

/-- A lobby after the close hooks of several remotes. -/
theorem get_apply_gone (remotes : List Remote) (gid : Nat) :
    ((LobbyOp.gone remotes).apply l).get gid = (l.get gid).bind fun g =>
      if g.ownerRemote ∈ remotes then none
      else some { g with
        participants := g.participants.filter fun p => decide (p.remote ∉ remotes) } := by
  apply Option.ext
  intro g'
  refine (Lobby.get_gone hi remotes gid g').trans ?_
  rw [Option.bind_eq_some_iff]
  refine exists_congr fun g => and_congr_right fun _ => ?_
  by_cases hr : g.ownerRemote ∈ remotes
  · simp [hr]
  · rw [if_neg hr, Option.some.injEq]
    exact ⟨fun h => h.2.symm, fun h => ⟨hr, h.symm⟩⟩

/-- **Which lobbies there are** after a move. -/
theorem alive_apply (op : LobbyOp) (gid : Nat) :
    ((op.apply l).get gid).isSome ↔
      op.Founds l gid ∨ ((l.get gid).isSome ∧ ¬ op.Ends l gid) := by
  have hkeep : op.keepsMembers = true → (((op.apply l).get gid).isSome ↔ (l.get gid).isSome) := by
    intro h
    have hk := congrArg Option.isSome (op.sameMembers h l gid)
    rw [Option.isSome_map, Option.isSome_map] at hk
    rw [hk]
  cases op with
  | idle => simpa [LobbyOp.Founds, LobbyOp.Ends] using hkeep rfl
  | close => simpa [LobbyOp.Founds, LobbyOp.Ends] using hkeep rfl
  | reopen => simpa [LobbyOp.Founds, LobbyOp.Ends] using hkeep rfl
  | report => simpa [LobbyOp.Founds, LobbyOp.Ends] using hkeep rfl
  | cancel => simpa [LobbyOp.Founds, LobbyOp.Ends] using hkeep rfl
  | expire => simpa [LobbyOp.Founds, LobbyOp.Ends] using hkeep rfl
  | create pid remote raw c =>
    by_cases hseq : gid = l.registry.gatheringIdSeq
    · subst hseq
      rw [get_create_self hi]
      exact iff_of_true rfl (.inl rfl)
    · rw [get_create_of_ne hi pid remote raw c hseq]
      show _ ↔ gid = _ ∨ ((l.get gid).isSome ∧ ¬ l.registry.ownerOf gid = some pid)
      split
      · next ho => simp [hseq, ho]
      · next ho => simp [hseq, ho]
  | join k pid name remote c =>
    show ((l.registry.addParticipant k pid name remote (some c)).2.get gid).isSome ↔
      False ∨ ((l.get gid).isSome ∧ ¬ False)
    rw [GatheringRegistry.get_addParticipant]
    split
    · next hk => simp [hk, Lobby.get]
    · simp [Lobby.get]
  | leave k pid =>
    show ((l.registry.removeParticipant k pid).2.get gid).isSome ↔
      False ∨ ((l.get gid).isSome ∧ ¬ False)
    rw [GatheringRegistry.get_removeParticipant]
    split
    · next hk => simp [hk, Lobby.get]
    · simp [Lobby.get]
  | destroy k =>
    show ((l.registry.destroy k).2.get gid).isSome ↔ False ∨ ((l.get gid).isSome ∧ ¬ k = gid)
    rw [GatheringRegistry.get_destroy]
    split
    · next hk => simp [hk]
    · next hk => simp [Lobby.get, Ne.symm hk]
  | gone remotes =>
    rw [get_apply_gone hi]
    show _ ↔ False ∨ ((l.get gid).isSome ∧ ¬ ∃ g ∈ l.get gid, g.ownerRemote ∈ remotes)
    cases l.get gid with
    | none => simp
    | some g =>
      rw [Option.bind_some]
      split
      · next hr => simp [hr]
      · next hr => simp [hr]

omit hi in
theorem mem_pids_of_joined (ps : List Participant) (pid : Nat) (name : Str) (remote : Remote)
    (c : ConnId) (x : Nat) :
    x ∈ (GatheringRegistry.joined ps pid name remote (some c)).map (·.pid) ↔
      x ∈ ps.map (·.pid) ∨ x = pid := by
  rw [GatheringRegistry.pids_joined]
  split
  · next hin => exact ⟨.inl, fun h => h.elim id fun he => he ▸ hin⟩
  · simp

/-- **Who is in a lobby** after a move. -/
theorem listed_apply (op : LobbyOp) (gid pid : Nat) :
    (op.apply l).Listed gid pid ↔
      op.Seats l gid pid ∨ (l.Listed gid pid ∧ ¬ op.Unseats l gid pid) := by
  have hkeep : op.keepsMembers = true → ((op.apply l).Listed gid pid ↔ l.Listed gid pid) :=
    fun h => (op.sameMembers h l).listed_iff gid pid
  cases op with
  | idle => simpa [LobbyOp.Seats, LobbyOp.Unseats, LobbyOp.Ends] using hkeep rfl
  | close => simpa [LobbyOp.Seats, LobbyOp.Unseats, LobbyOp.Ends] using hkeep rfl
  | reopen => simpa [LobbyOp.Seats, LobbyOp.Unseats, LobbyOp.Ends] using hkeep rfl
  | report => simpa [LobbyOp.Seats, LobbyOp.Unseats, LobbyOp.Ends] using hkeep rfl
  | cancel => simpa [LobbyOp.Seats, LobbyOp.Unseats, LobbyOp.Ends] using hkeep rfl
  | expire => simpa [LobbyOp.Seats, LobbyOp.Unseats, LobbyOp.Ends] using hkeep rfl
  | create p remote raw c =>
    show (∃ g ∈ ((LobbyOp.create p remote raw c).apply l).get gid, pid ∈ g.pids) ↔
      (gid = l.registry.gatheringIdSeq ∧ p = pid) ∨
        (l.Listed gid pid ∧ ¬ l.registry.ownerOf gid = some p)
    by_cases hseq : gid = l.registry.gatheringIdSeq
    · subst hseq
      have hnone : ¬ l.Listed l.registry.gatheringIdSeq pid := by
        rintro ⟨g, hg, -⟩
        cases hi.get_seq.symm.trans hg
      rw [get_create_self hi]
      simp [hnone, Gathering.pids, GatheringRegistry.newGathering, eq_comm]
    · rw [get_create_of_ne hi p remote raw c hseq]
      unfold Lobby.Listed
      split
      · next ho => simp [hseq, ho]
      · next ho => simp [hseq, ho]
  | join k p name remote c =>
    show (∃ g ∈ (l.registry.addParticipant k p name remote (some c)).2.get gid, pid ∈ g.pids) ↔
      (k = gid ∧ p = pid ∧ (l.get gid).isSome) ∨ (l.Listed gid pid ∧ ¬ False)
    rw [GatheringRegistry.get_addParticipant]
    unfold Lobby.Listed
    split
    · next hk =>
      subst hk
      simp only [Option.mem_def, Option.map_eq_some_iff, exists_exists_and_eq_and,
        Option.isSome_iff_exists, Lobby.get, not_false_eq_true, and_true, true_and]
      constructor
      · rintro ⟨g, hg, hin⟩
        rcases (mem_pids_of_joined g.participants p name remote c pid).mp hin with h | h
        · exact .inr ⟨g, hg, h⟩
        · exact .inl ⟨h.symm, g, hg⟩
      · rintro (⟨rfl, g, hg⟩ | ⟨g, hg, hin⟩)
        · exact ⟨g, hg, (mem_pids_of_joined g.participants p name remote c p).mpr (.inr rfl)⟩
        · exact ⟨g, hg, (mem_pids_of_joined g.participants p name remote c pid).mpr (.inl hin)⟩
    · next hk => simp [Lobby.get, Ne.symm hk]
  | leave k p =>
    show (∃ g ∈ (l.registry.removeParticipant k p).2.get gid, pid ∈ g.pids) ↔
      False ∨ (l.Listed gid pid ∧ ¬ (k = gid ∧ p = pid))
    rw [GatheringRegistry.get_removeParticipant]
    unfold Lobby.Listed
    split
    · next hk =>
      subst hk
      simp only [Option.mem_def, Option.map_eq_some_iff, exists_exists_and_eq_and, Lobby.get,
        true_and, false_or]
      constructor
      · rintro ⟨g, hg, hin⟩
        obtain ⟨q, hq, rfl⟩ := List.mem_map.mp hin
        obtain ⟨hq, hne⟩ := List.mem_filter.mp hq
        exact ⟨⟨g, hg, List.mem_map.mpr ⟨q, hq, rfl⟩⟩, fun h => bne_iff_ne.mp hne h.symm⟩
      · rintro ⟨⟨g, hg, hin⟩, hne⟩
        obtain ⟨q, hq, rfl⟩ := List.mem_map.mp hin
        exact ⟨g, hg, List.mem_map.mpr
          ⟨q, List.mem_filter.mpr ⟨hq, bne_iff_ne.mpr (Ne.symm hne)⟩, rfl⟩⟩
    · next hk => simp [Lobby.get, Ne.symm hk]
  | destroy k =>
    show (∃ g ∈ (l.registry.destroy k).2.get gid, pid ∈ g.pids) ↔
      False ∨ (l.Listed gid pid ∧ ¬ k = gid)
    rw [GatheringRegistry.get_destroy]
    unfold Lobby.Listed
    split
    · next hk => simp [hk]
    · next hk => simp [Lobby.get, Ne.symm hk]
  | gone remotes =>
    show (∃ g ∈ ((LobbyOp.gone remotes).apply l).get gid, pid ∈ g.pids) ↔
      False ∨ (l.Listed gid pid ∧ ¬ ∀ g ∈ l.get gid, g.ownerRemote ∈ remotes ∨
        ∀ p ∈ g.participants, p.pid = pid → p.remote ∈ remotes)
    rw [get_apply_gone hi]
    unfold Lobby.Listed
    cases l.get gid with
    | none => simp
    | some g =>
      rw [Option.bind_some]
      split
      · next hr => simp [hr]
      · next hr =>
        simp [hr, Gathering.pids]
        tauto

/-- **Which lobbies are locked** after a move. -/
theorem locked_apply (op : LobbyOp) (gid : Nat) :
    (op.apply l).Locked gid ↔ op.Locks l gid ∨ (l.Locked gid ∧ ¬ op.Unlocks l gid) := by
  have hkeep : ∀ {l' : Lobby}, Lobby.SameButBatches l l' →
      (l'.Locked gid ↔ False ∨ (l.Locked gid ∧ ¬ False)) := by
    intro l' h
    rw [h.locked_same gid]
    simp
  cases op with
  | idle => exact hkeep (.refl l)
  | report port pid arm clear => exact hkeep (.report l port pid arm clear)
  | cancel k => exact hkeep (.cancel l k)
  | expire id clear => exact hkeep (.expire l id clear)
  | close k =>
    show (∃ g ∈ ((LobbyOp.close k).apply l).get gid, g.closed = true) ↔
      (k = gid ∧ (l.get gid).isSome) ∨ (l.Locked gid ∧ ¬ False)
    rw [Lobby.get_close]
    unfold Lobby.Locked
    split
    · next hk =>
      subst hk
      cases l.get gid with
      | none => simp
      | some g => simp
    · next hk => simp [Ne.symm hk]
  | reopen k =>
    show (∃ g ∈ (l.registry.setClosed k false).2.get gid, g.closed = true) ↔
      False ∨ (l.Locked gid ∧ ¬ k = gid)
    rw [GatheringRegistry.get_setClosed]
    unfold Lobby.Locked
    split
    · next hk => simp [hk]
    · next hk => simp [Lobby.get, Ne.symm hk]
  | create p remote raw c =>
    show (∃ g ∈ ((LobbyOp.create p remote raw c).apply l).get gid, g.closed = true) ↔
      False ∨ (l.Locked gid ∧ ¬ l.registry.ownerOf gid = some p)
    unfold Lobby.Locked
    by_cases hseq : gid = l.registry.gatheringIdSeq
    · subst hseq
      rw [get_create_self hi, show l.get l.registry.gatheringIdSeq = none from hi.get_seq]
      simp [GatheringRegistry.newGathering]
    · rw [get_create_of_ne hi p remote raw c hseq]
      split
      · next ho => simp [ho]
      · next ho => simp [ho]
  | join k p name remote c =>
    show (∃ g ∈ (l.registry.addParticipant k p name remote (some c)).2.get gid, g.closed = true) ↔
      False ∨ (l.Locked gid ∧ ¬ False)
    rw [GatheringRegistry.get_addParticipant]
    unfold Lobby.Locked
    split
    · next hk => simp [hk, Lobby.get]
    · simp [Lobby.get]
  | leave k p =>
    show (∃ g ∈ (l.registry.removeParticipant k p).2.get gid, g.closed = true) ↔
      False ∨ (l.Locked gid ∧ ¬ False)
    rw [GatheringRegistry.get_removeParticipant]
    unfold Lobby.Locked
    split
    · next hk => simp [hk, Lobby.get]
    · simp [Lobby.get]
  | destroy k =>
    show (∃ g ∈ (l.registry.destroy k).2.get gid, g.closed = true) ↔
      False ∨ (l.Locked gid ∧ ¬ k = gid)
    rw [GatheringRegistry.get_destroy]
    unfold Lobby.Locked
    split
    · next hk => simp [hk]
    · next hk => simp [Lobby.get, Ne.symm hk]
  | gone remotes =>
    show (∃ g ∈ ((LobbyOp.gone remotes).apply l).get gid, g.closed = true) ↔
      False ∨ (l.Locked gid ∧ ¬ ∃ g ∈ l.get gid, g.ownerRemote ∈ remotes)
    rw [get_apply_gone hi]
    unfold Lobby.Locked
    cases l.get gid with
    | none => simp
    | some g =>
      rw [Option.bind_some]
      split
      · next hr => simp [hr]
      · next hr => simp [hr]

end

end Ghostbusters
