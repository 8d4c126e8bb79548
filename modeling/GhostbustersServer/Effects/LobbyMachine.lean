import GhostbustersServer.Protocols.GameLifecycle
import GhostbustersServer.State.RegistrySpec

/-!
# The lobbies as a machine of their own

What a step of the server does to the lobbies and to the timers of their pending
batches, without the connections, the messages and the database: one operation,
as a function on `Lobby`.  The server refines this machine; the invariants of the
lobbies are proved on it.
-/

namespace Ghostbusters

open Py

inductive LobbyOp where
  | idle
  | create (pid : Nat) (remote : Remote) (raw : Bytes) (conn : ConnId)
  | join (gid pid : Nat) (name : Str) (remote : Remote) (conn : ConnId)
  | leave (gid pid : Nat)
  | destroy (gid : Nat)
  | close (gid : Nat)
  | reopen (gid : Nat)
  /-- `arm`: the event loop runs; `clear`: a batch that is fired gets to its end -/
  | report (port : Port) (pid : Nat) (arm clear : Bool)
  | cancel (gid : Nat)
  | expire (id : TimerId) (clear : Bool)
  /-- the close hooks run for each remote in turn -/
  | gone (remotes : List Remote)

namespace Lobby

/-- Code over the registry. -/
def mapRegistry (l : Lobby) (f : GatheringRegistry → GatheringRegistry) : Lobby :=
  { l with registry := f l.registry }

def closeRemote (l : Lobby) (remote : Remote) : Lobby :=
  (l.mapRegistry fun reg => (reg.destroyByOwnerRemote remote).2).mapRegistry fun reg =>
    (reg.removeParticipantByRemote remote).2

def fire (l : Lobby) (gid : Nat) (clear : Bool) : Lobby :=
  if clear then (l.disarm gid).update gid Game.clearBatch else l.disarm gid

/-- The lobby has its expected set, and the report is in. -/
def addReport (l : Lobby) (gid pid : Nat) : Lobby :=
  (l.update gid Game.snapshot).update gid (Game.addReport pid)

def report (l : Lobby) (port : Port) (pid : Nat) (arm clear : Bool) : Lobby :=
  match Game.senderGathering l pid with
  | none => l
  | some g =>
    match (l.addReport g.id pid).get g.id with
    | none => l.addReport g.id pid
    | some g' =>
      if g'.expectedM12Pids ⊆ g'.receivedM12Pids then (l.addReport g.id pid).fire g.id clear
      else if arm then (l.addReport g.id pid).arm port g.id
      else l.addReport g.id pid

def forget (l : Lobby) (id : TimerId) : Lobby :=
  { l with timers := l.timers.filter fun t => t.id != id }

/-- `_on_m12_timeout`. -/
def timedOut (l : Lobby) (gid : Nat) (clear : Bool) : Lobby :=
  match l.get gid with
  | none => l
  | some g =>
    if g.receivedM12Pids = ∅ ∨ g.expectedM12Pids ⊆ g.receivedM12Pids then
      l.update gid fun g => { g with m12TimeoutHandle := none }
    else l.fire gid clear

def expire (l : Lobby) (id : TimerId) (clear : Bool) : Lobby :=
  match l.timers.find? fun t => t.id == id with
  | none => l
  | some t => (l.forget id).timedOut t.gatheringId clear

end Lobby

def LobbyOp.apply : LobbyOp → Lobby → Lobby
  | idle, l => l
  | create pid remote raw conn, l =>
    l.mapRegistry fun reg => (reg.create pid remote raw (some conn)).2
  | join gid pid name remote conn, l =>
    l.mapRegistry fun reg => (reg.addParticipant gid pid name remote (some conn)).2
  | leave gid pid, l => l.mapRegistry fun reg => (reg.removeParticipant gid pid).2
  | destroy gid, l => l.mapRegistry fun reg => (reg.destroy gid).2
  | close gid, l => (l.mapRegistry fun reg => (reg.setClosed gid true).2).update gid Game.snapshot
  | reopen gid, l => l.mapRegistry fun reg => (reg.setClosed gid false).2
  | report port pid arm clear, l => l.report port pid arm clear
  | cancel gid, l => (l.disarm gid).update gid Game.clearBatch
  | expire id clear, l => l.expire id clear
  | gone remotes, l => remotes.foldl Lobby.closeRemote l

/-- The lobby that a move names. -/
def LobbyOp.named : LobbyOp → Option Nat
  | .join gid _ _ _ _ => some gid
  | .leave gid _ => some gid
  | .destroy gid => some gid
  | .close gid => some gid
  | .reopen gid => some gid
  | .cancel gid => some gid
  | _ => none

/-! ## What the operations do to one lobby -/

@[simp] theorem Game.snapshot_closed (g : Gathering) : (Game.snapshot g).closed = g.closed := by
  unfold Game.snapshot
  split <;> rfl

@[simp] theorem Game.snapshot_pids (g : Gathering) : (Game.snapshot g).pids = g.pids := by
  unfold Game.snapshot
  split <;> rfl

namespace Lobby

theorem get_update (l : Lobby) (gid k : Nat) (f : Gathering → Gathering) :
    (l.update gid f).get k = if k = gid then (l.get gid).map f else l.get k :=
  l.registry.get_update gid k f

theorem get_update_self (l : Lobby) (gid : Nat) (f : Gathering → Gathering) :
    (l.update gid f).get gid = (l.get gid).map f := by
  rw [get_update, if_pos rfl]

theorem get_disarm (l : Lobby) (gid k : Nat) :
    (l.disarm gid).get k =
      if k = gid then (l.get gid).map fun g => { g with m12TimeoutHandle := none } else l.get k := by
  unfold disarm
  cases hg : l.get gid with
  | none =>
    by_cases hk : k = gid
    · simp [hk, hg]
    · simp [hk]
  | some g =>
    show (l.update gid _).get k = _
    rw [get_update, hg]

theorem get_arm (l : Lobby) (port : Port) (gid k : Nat) :
    (l.arm port gid).get k =
      if k = gid then (l.get gid).map fun g =>
        if g.m12TimeoutHandle.isSome then g else { g with m12TimeoutHandle := some l.nextTimer }
      else l.get k := by
  unfold arm
  cases hg : l.get gid with
  | none =>
    by_cases hk : k = gid
    · simp [hk, hg]
    · simp [hk]
  | some g =>
    by_cases hs : g.m12TimeoutHandle.isSome
    · by_cases hk : k = gid
      · simp [hs, hk, hg]
      · simp [hs, hk]
    · have : (if g.m12TimeoutHandle.isSome = true then l else
          { l.update gid (fun g => { g with m12TimeoutHandle := some l.nextTimer }) with
            timers := l.timers ++ [{ id := l.nextTimer, port, gatheringId := gid }]
            nextTimer := l.nextTimer + 1 }).get k =
          (l.update gid fun g => { g with m12TimeoutHandle := some l.nextTimer }).get k := by
        rw [if_neg hs]; rfl
      rw [this, get_update, hg]
      by_cases hk : k = gid <;> simp [hk, hs]

theorem get_fire (l : Lobby) (gid k : Nat) (clear : Bool) :
    (l.fire gid clear).get k =
      if k = gid then (l.get gid).map fun g =>
        if clear then Game.clearBatch { g with m12TimeoutHandle := none }
        else { g with m12TimeoutHandle := none }
      else l.get k := by
  unfold fire
  by_cases hk : k = gid
  · subst hk
    cases clear with
    | false => simp [get_disarm]
    | true =>
      rw [if_pos rfl, get_update_self, get_disarm, if_pos rfl, Option.map_map, if_pos rfl]
      rfl
  · cases clear <;> simp [get_update, get_disarm, hk]

theorem get_close (l : Lobby) (gid k : Nat) :
    ((LobbyOp.close gid).apply l).get k =
      if k = gid then (l.get gid).map fun g => Game.snapshot { g with closed := true }
      else l.get k := by
  show ((l.mapRegistry fun reg => (reg.setClosed gid true).2).update gid Game.snapshot).get k = _
  rw [Lobby.get_update]
  show (if k = gid then ((l.registry.setClosed gid true).2.get gid).map Game.snapshot
    else (l.registry.setClosed gid true).2.get k) = _
  rw [GatheringRegistry.get_setClosed, GatheringRegistry.get_setClosed, if_pos rfl, Option.map_map]
  split <;> rfl

theorem get_cancel (l : Lobby) (gid k : Nat) :
    ((LobbyOp.cancel gid).apply l).get k =
      if k = gid then (l.get gid).map fun g => Game.clearBatch { g with m12TimeoutHandle := none }
      else l.get k := by
  show ((l.disarm gid).update gid Game.clearBatch).get k = _
  rw [Lobby.get_update, Lobby.get_disarm, Lobby.get_disarm, if_pos rfl, Option.map_map]
  split <;> rfl

/-- Every other lobby is as it was. -/
theorem get_apply_of_ne {op : LobbyOp} {gid k : Nat} (h : op.named = some gid) (hne : k ≠ gid)
    (l : Lobby) : (op.apply l).get k = l.get k := by
  cases op with
  | idle => cases h
  | create => cases h
  | report => cases h
  | expire => cases h
  | gone => cases h
  | join =>
    cases h
    exact (GatheringRegistry.get_addParticipant _ _ _ _ _ _ k).trans (if_neg hne)
  | leave =>
    cases h
    exact (GatheringRegistry.get_removeParticipant _ _ _ k).trans (if_neg hne)
  | destroy =>
    cases h
    exact (GatheringRegistry.get_destroy _ _ k).trans (if_neg hne)
  | close =>
    cases h
    exact (get_close l gid k).trans (if_neg hne)
  | reopen =>
    cases h
    exact (GatheringRegistry.get_setClosed _ _ _ k).trans (if_neg hne)
  | cancel =>
    cases h
    exact (get_cancel l gid k).trans (if_neg hne)

/-- The close hooks of one remote: its lobbies go, and it goes from the others. -/
theorem get_closeRemote {l : Lobby} (h : l.registry.WellIndexed) (remote : Remote) (k : Nat)
    (g' : Gathering) :
    (l.closeRemote remote).get k = some g' ↔
      ∃ g, l.get k = some g ∧ g.ownerRemote ≠ remote ∧
        g' = { g with participants := g.participants.filter fun p => p.remote != remote } := by
  show ((l.registry.destroyByOwnerRemote remote).2.removeParticipantByRemote remote).2.get k =
    some g' ↔ _
  rw [GatheringRegistry.get_removeParticipantByRemote, Option.map_eq_some_iff]
  constructor
  · rintro ⟨g, hg, rfl⟩
    obtain ⟨hget, hne⟩ := (GatheringRegistry.get_destroyByOwnerRemote _ h remote k g).mp hg
    refine ⟨g, hget, hne, ?_⟩
    unfold GatheringRegistry.withoutRemote
    rw [if_neg hne]
  · rintro ⟨g, hget, hne, rfl⟩
    refine ⟨g, (GatheringRegistry.get_destroyByOwnerRemote _ h remote k g).mpr ⟨hget, hne⟩, ?_⟩
    unfold GatheringRegistry.withoutRemote
    rw [if_neg hne]

theorem WellIndexed.closeRemote {l : Lobby} (h : l.registry.WellIndexed) (remote : Remote) :
    (l.closeRemote remote).registry.WellIndexed :=
  (h.destroyByOwnerRemote remote).removeParticipantByRemote remote

/-- The close hooks of several. -/
theorem get_gone {l : Lobby} (h : l.registry.WellIndexed) (remotes : List Remote) (k : Nat)
    (g' : Gathering) :
    (remotes.foldl closeRemote l).get k = some g' ↔
      ∃ g, l.get k = some g ∧ g.ownerRemote ∉ remotes ∧
        g' = { g with participants := g.participants.filter fun p => decide (p.remote ∉ remotes) } := by
  induction remotes generalizing l with
  | nil => simp
  | cons remote remotes ih =>
    rw [List.foldl_cons, ih (WellIndexed.closeRemote h remote)]
    constructor
    · rintro ⟨g1, hg1, hne1, rfl⟩
      obtain ⟨g, hg, hne, rfl⟩ := (get_closeRemote h remote k g1).mp hg1
      refine ⟨g, hg, by simpa using ⟨hne, hne1⟩, ?_⟩
      simp only [List.filter_filter, List.mem_cons, not_or, Gathering.mk.injEq, true_and, and_true]
      apply List.filter_congr
      intro p _
      by_cases hp : p.remote = remote <;> simp [hp]
    · rintro ⟨g, hg, hne, rfl⟩
      rw [List.mem_cons, not_or] at hne
      refine ⟨_, (get_closeRemote h remote k _).mpr ⟨g, hg, hne.1, rfl⟩, hne.2, ?_⟩
      simp only [List.filter_filter, List.mem_cons, not_or, Gathering.mk.injEq, true_and, and_true]
      apply List.filter_congr
      intro p _
      by_cases hp : p.remote = remote <;> simp [hp]

/-- Whether some lobby has been joined, or created, from one of the remotes. -/
def Knows (l : Lobby) (remotes : List Remote) : Prop :=
  ∃ g ∈ l.registry.allGatherings, g.ownerRemote ∈ remotes ∨
    ∃ p ∈ g.participants, p.remote ∈ remotes

/-- The hooks of a remote that no lobby knows. -/
theorem closeRemote_of_unknown {l : Lobby} {remote : Remote} (h : ¬ l.Knows [remote]) :
    l.closeRemote remote = l := by
  have hall : ∀ g ∈ l.registry.byId.values,
      g.ownerRemote ≠ remote ∧ ∀ p ∈ g.participants, p.remote ≠ remote := by
    intro g hg
    constructor
    · intro hr
      exact h ⟨g, hg, .inl (List.mem_singleton.mpr hr)⟩
    · intro p hp hr
      exact h ⟨g, hg, .inr ⟨p, hp, List.mem_singleton.mpr hr⟩⟩
  have hvictims : (l.registry.byId.values.filter fun g => decide (g.ownerRemote = remote)) = [] := by
    rw [List.filter_eq_nil_iff]
    intro g hg
    simpa using (hall g hg).1
  have hdestroy : (l.registry.destroyByOwnerRemote remote).2 = l.registry := by
    show List.foldl _ l.registry (l.registry.byId.values.filter _) = _
    rw [hvictims]
    rfl
  have hbyId : l.registry.byId.mapVals (GatheringRegistry.withoutRemote remote) =
      l.registry.byId := by
    apply Dict.mapVals_eq_self
    intro g hg
    unfold GatheringRegistry.withoutRemote
    rw [if_neg (hall g hg).1, List.filter_eq_self.mpr fun p hp => bne_iff_ne.mpr ((hall g hg).2 p hp)]
  have hremove : (l.registry.removeParticipantByRemote remote).2 = l.registry := by
    unfold GatheringRegistry.removeParticipantByRemote
    simp only [hbyId]
  unfold closeRemote mapRegistry
  simp only [hdestroy, hremove]

/-- **The close hooks change nothing** exactly when no lobby knows any of the remotes. -/
theorem gone_eq_self_iff {l : Lobby} (h : l.registry.WellIndexed) (remotes : List Remote) :
    (remotes.foldl closeRemote l).registry = l.registry ↔ ¬ l.Knows remotes := by
  constructor
  · rintro he ⟨g, hg, hknown⟩
    obtain ⟨k, hk⟩ := (l.registry.mem_allGatherings_iff g).mp hg
    have hsame : (remotes.foldl closeRemote l).get k = some g := by
      show (remotes.foldl closeRemote l).registry.get k = some g
      rw [he]
      exact hk
    obtain ⟨g', hg', howner, hfilter⟩ := (get_gone h remotes k g).mp hsame
    cases hg'.symm.trans hk
    rcases hknown with ho | ⟨p, hp, hr⟩
    · exact howner ho
    · rw [(congrArg Gathering.participants hfilter :)] at hp
      exact of_decide_eq_true (List.mem_filter.mp hp).2 hr
  · intro hn
    have hall : ∀ remote ∈ remotes, ¬ l.Knows [remote] := by
      rintro remote hr ⟨g, hg, hknown⟩
      refine hn ⟨g, hg, hknown.imp ?_ ?_⟩
      · intro ho
        rw [List.mem_singleton.mp ho]
        exact hr
      · rintro ⟨p, hp, hr'⟩
        refine ⟨p, hp, ?_⟩
        rw [List.mem_singleton.mp hr']
        exact hr
    have hfold : remotes.foldl closeRemote l = l := by
      clear hn
      induction remotes with
      | nil => rfl
      | cons remote remotes ih =>
        rw [List.foldl_cons, closeRemote_of_unknown (hall remote List.mem_cons_self)]
        exact ih fun r hr => hall r (List.mem_cons_of_mem _ hr)
    rw [hfold]

end Lobby

/-! ## Who is in a lobby -/

theorem Gathering.participants_without (g : Gathering) {pid : Nat} (h : pid ∉ g.pids) :
    (g.participants.filter fun p => p.pid != pid) = g.participants := by
  rw [List.filter_eq_self]
  intro p hp
  rw [bne_iff_ne]
  rintro rfl
  exact h (List.mem_map.mpr ⟨p, hp, rfl⟩)

/-- A gathering without its lock and the state of its batch. -/
def Gathering.membership (g : Gathering) : Gathering :=
  { g with closed := false, expectedM12Pids := ∅, receivedM12Pids := ∅, m12TimeoutHandle := none }

/-- A gathering without the state of its batch. -/
def Gathering.unbatched (g : Gathering) : Gathering :=
  { g with expectedM12Pids := ∅, receivedM12Pids := ∅, m12TimeoutHandle := none }

namespace Lobby

/-- Every lobby of `l'` is one of `l` with the same members. -/
def SameMembers (l l' : Lobby) : Prop :=
  ∀ k, (l'.get k).map Gathering.membership = (l.get k).map Gathering.membership

theorem SameMembers.refl (l : Lobby) : SameMembers l l := fun _ => rfl

theorem SameMembers.trans {a b c : Lobby} (h1 : SameMembers a b) (h2 : SameMembers b c) :
    SameMembers a c := fun k => (h2 k).trans (h1 k)

theorem SameMembers.back {l l' : Lobby} (h : SameMembers l l') {k : Nat} {g' : Gathering}
    (hg' : l'.get k = some g') : ∃ g, l.get k = some g ∧ g.membership = g'.membership := by
  have hk := h k
  rw [hg', Option.map_some] at hk
  obtain ⟨g, hg, hm⟩ := Option.map_eq_some_iff.mp hk.symm
  exact ⟨g, hg, hm⟩

/-- Every lobby of `l'` is one of `l`, but for the state of its batch. -/
def SameButBatches (l l' : Lobby) : Prop :=
  ∀ k, (l'.get k).map Gathering.unbatched = (l.get k).map Gathering.unbatched

theorem SameButBatches.refl (l : Lobby) : SameButBatches l l := fun _ => rfl

theorem SameButBatches.trans {a b c : Lobby} (h1 : SameButBatches a b) (h2 : SameButBatches b c) :
    SameButBatches a c := fun k => (h2 k).trans (h1 k)

theorem SameButBatches.members {l l' : Lobby} (h : SameButBatches l l') : SameMembers l l' := by
  intro k
  have hview : Gathering.membership = (fun g => { g with closed := false }) ∘ Gathering.unbatched :=
    rfl
  rw [hview, ← Option.map_map, h k, Option.map_map]

theorem SameButBatches.update (l : Lobby) (gid : Nat) (f : Gathering → Gathering)
    (hf : ∀ g, (f g).unbatched = g.unbatched) : SameButBatches l (l.update gid f) := by
  intro k
  rw [get_update]
  split
  · next hk =>
    rw [hk, Option.map_map]
    congr 1
    funext g
    exact hf g
  · rfl

theorem unbatched_snapshot (g : Gathering) : (Game.snapshot g).unbatched = g.unbatched := by
  unfold Game.snapshot
  split <;> rfl

theorem SameButBatches.disarm (l : Lobby) (gid : Nat) : SameButBatches l (l.disarm gid) := by
  intro k
  rw [get_disarm]
  split
  · next hk => rw [hk, Option.map_map]; rfl
  · rfl

theorem SameButBatches.arm (l : Lobby) (port : Port) (gid : Nat) : SameButBatches l (l.arm port gid) := by
  intro k
  rw [get_arm]
  split
  · next hk =>
    rw [hk, Option.map_map]
    congr 1
    funext g
    show Gathering.unbatched (if _ then _ else _) = _
    split <;> rfl
  · rfl

theorem SameButBatches.fire (l : Lobby) (gid : Nat) (clear : Bool) :
    SameButBatches l (l.fire gid clear) := by
  unfold Lobby.fire
  split
  · exact (SameButBatches.disarm l gid).trans (SameButBatches.update _ gid _ fun _ => rfl)
  · exact SameButBatches.disarm l gid

theorem SameButBatches.addReport (l : Lobby) (gid pid : Nat) : SameButBatches l (l.addReport gid pid) :=
  (SameButBatches.update l gid _ unbatched_snapshot).trans (SameButBatches.update _ gid _ fun _ => rfl)

theorem SameButBatches.report (l : Lobby) (port : Port) (pid : Nat) (arm clear : Bool) :
    SameButBatches l (l.report port pid arm clear) := by
  unfold Lobby.report
  split
  · exact SameButBatches.refl l
  · next g _ =>
    have h := SameButBatches.addReport l g.id pid
    split
    · exact h
    · split
      · exact h.trans (SameButBatches.fire _ g.id clear)
      · split
        · exact h.trans (SameButBatches.arm _ port g.id)
        · exact h

theorem SameButBatches.expire (l : Lobby) (id : TimerId) (clear : Bool) :
    SameButBatches l (l.expire id clear) := by
  unfold Lobby.expire
  split
  · exact SameButBatches.refl l
  · next t _ =>
    have h : SameButBatches l (l.forget id) := fun _ => rfl
    unfold Lobby.timedOut
    split
    · exact h
    · split
      · exact h.trans (SameButBatches.update _ t.gatheringId _ fun _ => rfl)
      · exact h.trans (SameButBatches.fire _ t.gatheringId clear)

theorem SameButBatches.cancel (l : Lobby) (gid : Nat) :
    SameButBatches l ((LobbyOp.cancel gid).apply l) :=
  (SameButBatches.disarm l gid).trans (SameButBatches.update _ gid _ fun _ => rfl)

theorem SameMembers.setClosed (l : Lobby) (gid : Nat) (value : Bool) :
    SameMembers l (l.mapRegistry fun reg => (reg.setClosed gid value).2) := by
  intro k
  show Option.map _ ((l.registry.setClosed gid value).2.get k) = _
  rw [GatheringRegistry.get_setClosed]
  split
  · next hk => rw [hk, Option.map_map]; rfl
  · rfl

/-- A leave of someone who is not in the lobby. -/
theorem SameMembers.leave {l : Lobby} {gid pid : Nat}
    (h : ∀ g, l.get gid = some g → pid ∉ g.pids) :
    SameMembers l ((LobbyOp.leave gid pid).apply l) := by
  intro k
  show Option.map _ ((l.registry.removeParticipant gid pid).2.get k) = _
  rw [GatheringRegistry.get_removeParticipant]
  split
  · next hk =>
    subst hk
    cases hg : l.registry.get k with
    | none => rw [show l.get k = none from hg]; rfl
    | some g =>
      rw [show l.get k = some g from hg, Option.map_some, g.participants_without (h g hg)]
  · rfl

end Lobby

/-- Whether an operation is about a batch or a lock only. -/
def LobbyOp.keepsMembers : LobbyOp → Bool
  | .create .. | .join .. | .leave .. | .destroy .. | .gone .. => false
  | _ => true

theorem LobbyOp.sameMembers {op : LobbyOp} (h : op.keepsMembers = true) (l : Lobby) :
    Lobby.SameMembers l (op.apply l) := by
  cases op with
  | idle => exact .refl l
  | create => cases h
  | join => cases h
  | leave => cases h
  | destroy => cases h
  | gone => cases h
  | close gid =>
    exact (Lobby.SameMembers.setClosed l gid true).trans
      (Lobby.SameButBatches.update _ gid _ Lobby.unbatched_snapshot).members
  | reopen gid => exact .setClosed l gid false
  | report port pid arm clear => exact (Lobby.SameButBatches.report l port pid arm clear).members
  | cancel gid => exact (Lobby.SameButBatches.cancel l gid).members
  | expire id clear => exact (Lobby.SameButBatches.expire l id clear).members

/-- What a lobby is created with. -/
def Gathering.origin (g : Gathering) : Gathering := { g.membership with participants := [] }

/-- What a move makes of the participants of lobby `k`: some go, or one is let in. -/
inductive LobbyOp.Reseats (op : LobbyOp) (k : Nat) (ps : List Participant) :
    List Participant → Prop where
  | kept {qs} : qs.Sublist ps → op.Reseats k ps qs
  | joined {pid name remote conn} : op = .join k pid name remote conn →
      op.Reseats k ps (GatheringRegistry.joined ps pid name remote (some conn))

/-- A lobby after a move that moves players. -/
theorem LobbyOp.back_of_moves {op : LobbyOp} (hop : op.keepsMembers = false) {l : Lobby}
    (hi : l.registry.WellIndexed) {k : Nat} {g' : Gathering} (hk : (op.apply l).get k = some g') :
    (∃ g, l.get k = some g ∧ g' = { g with participants := g'.participants } ∧
      op.Reseats k g.participants g'.participants) ∨
    ∃ pid remote raw conn, op = .create pid remote raw conn ∧ k = l.registry.gatheringIdSeq ∧
      g' = GatheringRegistry.newGathering l.registry.gatheringIdSeq pid remote raw (some conn) := by
  cases op with
  | idle => cases hop
  | close => cases hop
  | reopen => cases hop
  | report => cases hop
  | cancel => cases hop
  | expire => cases hop
  | create pid remote raw conn =>
    change (l.registry.create pid remote raw (some conn)).2.get k = some g' at hk
    rw [GatheringRegistry.get_create _ hi] at hk
    split at hk
    · next he => exact .inr ⟨pid, remote, raw, conn, rfl, he, (Option.some.inj hk).symm⟩
    · split at hk
      · cases hk
      · exact .inl ⟨g', hk, rfl, .kept (List.Sublist.refl _)⟩
  | join gid pid name remote conn =>
    change (l.registry.addParticipant gid pid name remote (some conn)).2.get k = some g' at hk
    rw [GatheringRegistry.get_addParticipant] at hk
    split at hk
    · next he =>
      obtain ⟨g, hg, rfl⟩ := Option.map_eq_some_iff.mp hk
      exact .inl ⟨g, by rw [he]; exact hg, rfl, .joined (by rw [he])⟩
    · exact .inl ⟨g', hk, rfl, .kept (List.Sublist.refl _)⟩
  | leave gid pid =>
    change (l.registry.removeParticipant gid pid).2.get k = some g' at hk
    rw [GatheringRegistry.get_removeParticipant] at hk
    split at hk
    · next he =>
      obtain ⟨g, hg, rfl⟩ := Option.map_eq_some_iff.mp hk
      exact .inl ⟨g, by rw [he]; exact hg, rfl, .kept List.filter_sublist⟩
    · exact .inl ⟨g', hk, rfl, .kept (List.Sublist.refl _)⟩
  | destroy gid =>
    change (l.registry.destroy gid).2.get k = some g' at hk
    rw [GatheringRegistry.get_destroy] at hk
    split at hk
    · cases hk
    · exact .inl ⟨g', hk, rfl, .kept (List.Sublist.refl _)⟩
  | gone remotes =>
    obtain ⟨g, hg, -, rfl⟩ := (Lobby.get_gone hi remotes k g').mp hk
    exact .inl ⟨g, hg, rfl, .kept List.filter_sublist⟩

/-- **A lobby after a move** was there before with the same origin, or has been created. -/
theorem LobbyOp.back (op : LobbyOp) {l : Lobby} (hi : l.registry.WellIndexed) {k : Nat}
    {g' : Gathering} (hk : (op.apply l).get k = some g') :
    (∃ g, l.get k = some g ∧ g'.origin = g.origin ∧ op.Reseats k g.participants g'.participants) ∨
    ∃ pid remote raw conn, op = .create pid remote raw conn ∧ k = l.registry.gatheringIdSeq ∧
      g' = GatheringRegistry.newGathering l.registry.gatheringIdSeq pid remote raw (some conn) := by
  cases hkeep : op.keepsMembers with
  | true =>
    obtain ⟨g, hg, hm⟩ := (op.sameMembers hkeep l).back hk
    refine .inl ⟨g, hg, ?_, .kept ?_⟩
    · unfold Gathering.origin
      rw [hm]
    · rw [show g'.participants = g.participants from (congrArg Gathering.participants hm :).symm]
  | false =>
    refine (op.back_of_moves hkeep hi hk).imp_left ?_
    rintro ⟨g, hg, he, hps⟩
    refine ⟨g, hg, ?_, hps⟩
    rw [he]
    rfl

theorem LobbyOp.origin_back (op : LobbyOp) {l : Lobby} (hi : l.registry.WellIndexed) {k : Nat}
    {g' : Gathering} (hk : (op.apply l).get k = some g') :
    (∃ g, l.get k = some g ∧ g'.origin = g.origin) ∨
    ∃ pid remote raw conn, op = .create pid remote raw conn ∧ k = l.registry.gatheringIdSeq ∧
      g' = GatheringRegistry.newGathering l.registry.gatheringIdSeq pid remote raw (some conn) :=
  (op.back hi hk).imp_left fun ⟨g, hg, ho, _⟩ => ⟨g, hg, ho⟩

/-- **The lock of a lobby** is left alone by every move but the two that are about it. -/
theorem LobbyOp.closed_back (op : LobbyOp) {l : Lobby} (hi : l.registry.WellIndexed) {k : Nat}
    {g' : Gathering} (hk : (op.apply l).get k = some g') (hclose : op ≠ .close k)
    (hreopen : op ≠ .reopen k) :
    (∃ g, l.get k = some g ∧ g'.closed = g.closed) ∨ k = l.registry.gatheringIdSeq := by
  have hbatch : Lobby.SameButBatches l (op.apply l) → ∃ g, l.get k = some g ∧ g'.closed = g.closed := by
    intro h
    have hview := h k
    rw [hk, Option.map_some] at hview
    obtain ⟨g, hg, he⟩ := Option.map_eq_some_iff.mp hview.symm
    exact ⟨g, hg, (congrArg Gathering.closed he :).symm⟩
  have hmoves : op.keepsMembers = false → (∃ g, l.get k = some g ∧ g'.closed = g.closed) ∨
      k = l.registry.gatheringIdSeq := by
    intro hkeep
    rcases op.back_of_moves hkeep hi hk with ⟨g, hg, he, -⟩ | ⟨_, _, _, _, -, he, -⟩
    · exact .inl ⟨g, hg, (congrArg Gathering.closed he :)⟩
    · exact .inr he
  cases op with
  | create => exact hmoves rfl
  | join => exact hmoves rfl
  | leave => exact hmoves rfl
  | destroy => exact hmoves rfl
  | gone => exact hmoves rfl
  | idle => exact .inl ⟨g', hk, rfl⟩
  | report port pid arm clear => exact .inl (hbatch (.report l port pid arm clear))
  | cancel gid => exact .inl (hbatch (.cancel l gid))
  | expire id clear => exact .inl (hbatch (.expire l id clear))
  | close gid =>
    have hne : k ≠ gid := fun he => hclose (by rw [he])
    rw [Lobby.get_close, if_neg hne] at hk
    exact .inl ⟨g', hk, rfl⟩
  | reopen gid =>
    have hne : k ≠ gid := fun he => hreopen (by rw [he])
    change (l.registry.setClosed gid false).2.get k = _ at hk
    rw [GatheringRegistry.get_setClosed, if_neg hne] at hk
    exact .inl ⟨g', hk, rfl⟩

/-- Only a reopen unlocks. -/
theorem LobbyOp.closed_apply (op : LobbyOp) {l : Lobby} (hi : l.registry.WellIndexed) {k : Nat}
    (hlt : k < l.registry.gatheringIdSeq) (hold : ∀ g, l.get k = some g → g.closed = true)
    (hreopen : op ≠ .reopen k) {g' : Gathering} (hk : (op.apply l).get k = some g') :
    g'.closed = true := by
  by_cases hclose : op = .close k
  · subst hclose
    rw [Lobby.get_close, if_pos rfl] at hk
    obtain ⟨g, -, rfl⟩ := Option.map_eq_some_iff.mp hk
    exact Game.snapshot_closed _
  · rcases op.closed_back hi hk hclose hreopen with ⟨g, hg, he⟩ | he
    · rw [he]
      exact hold g hg
    · omega

/-! ## What the batches keep -/

/-- The state of the batch of a lobby. -/
def Gathering.batch (g : Gathering) : Finset Nat × Finset Nat × Option TimerId :=
  (g.expectedM12Pids, g.receivedM12Pids, g.m12TimeoutHandle)

/-- Whether an operation leaves batches and timers alone. -/
def LobbyOp.keepsBatches : LobbyOp → Bool
  | .close .. | .report .. | .cancel .. | .expire .. => false
  | _ => true

namespace Lobby

theorem foldl_closeRemote_timers (remotes : List Remote) (l : Lobby) :
    (remotes.foldl closeRemote l).timers = l.timers ∧
      (remotes.foldl closeRemote l).nextTimer = l.nextTimer := by
  induction remotes generalizing l with
  | nil => exact ⟨rfl, rfl⟩
  | cons remote remotes ih => exact ih (l.closeRemote remote)

/-- Every lobby of `l'` is one of `l` with the same batch, or is new and has none. -/
structure SameBatches (l l' : Lobby) : Prop where
  timers : l'.timers = l.timers
  nextTimer : l'.nextTimer = l.nextTimer
  back : ∀ k g', l'.get k = some g' →
    (∃ g, l.get k = some g ∧ g'.batch = g.batch) ∨
    (g'.batch = (∅, ∅, none) ∧ l.registry.gatheringIdSeq ≤ k)

/-- An edit of one lobby. -/
theorem SameBatches.of_edit {l l' : Lobby} (ht : l'.timers = l.timers)
    (hn : l'.nextTimer = l.nextTimer) (gid : Nat) (f : Gathering → Gathering)
    (hget : ∀ k, l'.get k = if k = gid then (l.get gid).map f else l.get k)
    (hf : ∀ g, (f g).batch = g.batch) : SameBatches l l' := by
  refine ⟨ht, hn, ?_⟩
  intro k g' hk
  rw [hget] at hk
  split at hk
  · next he =>
    obtain ⟨g, hg, rfl⟩ := Option.map_eq_some_iff.mp hk
    exact .inl ⟨g, by rw [he]; exact hg, hf g⟩
  · exact .inl ⟨g', hk, rfl⟩

end Lobby

theorem LobbyOp.sameBatches {op : LobbyOp} (h : op.keepsBatches = true) {l : Lobby}
    (hi : l.registry.WellIndexed) : Lobby.SameBatches l (op.apply l) := by
  cases op with
  | idle => exact ⟨rfl, rfl, fun k g' hk => .inl ⟨g', hk, rfl⟩⟩
  | close => cases h
  | report => cases h
  | cancel => cases h
  | expire => cases h
  | create pid remote raw conn =>
    refine ⟨rfl, rfl, ?_⟩
    intro k g' hk
    change (l.registry.create pid remote raw (some conn)).2.get k = some g' at hk
    rw [GatheringRegistry.get_create _ hi] at hk
    split at hk
    · next he =>
      cases hk
      exact .inr ⟨rfl, Nat.le_of_eq he.symm⟩
    · split at hk
      · cases hk
      · exact .inl ⟨g', hk, rfl⟩
  | join gid pid name remote conn =>
    exact .of_edit rfl rfl gid _
      (GatheringRegistry.get_addParticipant l.registry gid pid name remote (some conn)) fun _ => rfl
  | leave gid pid =>
    exact .of_edit rfl rfl gid _ (GatheringRegistry.get_removeParticipant l.registry gid pid)
      fun _ => rfl
  | reopen gid =>
    exact .of_edit rfl rfl gid _ (GatheringRegistry.get_setClosed l.registry gid false) fun _ => rfl
  | destroy gid =>
    refine ⟨rfl, rfl, ?_⟩
    intro k g' hk
    change (l.registry.destroy gid).2.get k = some g' at hk
    rw [GatheringRegistry.get_destroy] at hk
    split at hk
    · cases hk
    · exact .inl ⟨g', hk, rfl⟩
  | gone remotes =>
    obtain ⟨ht, hn⟩ := Lobby.foldl_closeRemote_timers remotes l
    refine ⟨ht, hn, ?_⟩
    intro k g' hk
    obtain ⟨g, hg, -, rfl⟩ := (Lobby.get_gone hi remotes k g').mp hk
    exact .inl ⟨g, hg, rfl⟩

/-! ## Ids -/

namespace Lobby

theorem seq_disarm (l : Lobby) (gid : Nat) :
    (l.disarm gid).registry.gatheringIdSeq = l.registry.gatheringIdSeq := by
  unfold disarm
  split <;> rfl

theorem seq_arm (l : Lobby) (port : Port) (gid : Nat) :
    (l.arm port gid).registry.gatheringIdSeq = l.registry.gatheringIdSeq := by
  unfold arm
  split
  · rfl
  · split <;> rfl

theorem seq_fire (l : Lobby) (gid : Nat) (clear : Bool) :
    (l.fire gid clear).registry.gatheringIdSeq = l.registry.gatheringIdSeq := by
  unfold fire
  split <;> exact seq_disarm l gid

theorem seq_report (l : Lobby) (port : Port) (pid : Nat) (arm clear : Bool) :
    (l.report port pid arm clear).registry.gatheringIdSeq = l.registry.gatheringIdSeq := by
  unfold report
  split
  · rfl
  · split
    · rfl
    · split
      · exact seq_fire _ _ clear
      · split
        · exact seq_arm _ port _
        · rfl

theorem seq_expire (l : Lobby) (id : TimerId) (clear : Bool) :
    (l.expire id clear).registry.gatheringIdSeq = l.registry.gatheringIdSeq := by
  unfold expire timedOut
  split
  · rfl
  · split
    · rfl
    · split
      · rfl
      · exact seq_fire _ _ clear

end Lobby

/-- The id counter never goes back. -/
theorem LobbyOp.seq_le_apply (op : LobbyOp) (l : Lobby) :
    l.registry.gatheringIdSeq ≤ (op.apply l).registry.gatheringIdSeq := by
  cases op with
  | idle => exact Nat.le_refl _
  | create pid remote raw conn => exact RegistryOp.seq_apply (.create pid remote raw (some conn)) _
  | join gid pid name remote conn =>
    exact RegistryOp.seq_apply (.addParticipant gid pid name remote (some conn)) _
  | leave gid pid => exact RegistryOp.seq_apply (.removeParticipant gid pid) _
  | destroy gid => exact RegistryOp.seq_apply (.destroy gid) _
  | close gid => exact RegistryOp.seq_apply (.setClosed gid true) _
  | reopen gid => exact RegistryOp.seq_apply (.setClosed gid false) _
  | report port pid arm clear => exact Nat.le_of_eq (Lobby.seq_report l port pid arm clear).symm
  | cancel gid => exact Nat.le_of_eq (Lobby.seq_disarm l gid).symm
  | expire id clear => exact Nat.le_of_eq (Lobby.seq_expire l id clear).symm
  | gone remotes =>
    show _ ≤ (remotes.foldl Lobby.closeRemote l).registry.gatheringIdSeq
    induction remotes generalizing l with
    | nil => exact Nat.le_refl _
    | cons remote remotes ih =>
      refine Nat.le_trans ?_ (ih (l.closeRemote remote))
      exact (RegistryOp.seq_apply (.destroyByOwnerRemote remote) l.registry).trans
        (RegistryOp.seq_apply (.removeParticipantByRemote remote) _)

end Ghostbusters
