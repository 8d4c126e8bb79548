import GhostbustersServer.Guarantees.HostFirst
import GhostbustersServer.Guarantees.Offers

/-!
# Joining again

`add_participant` keeps the entry of a player that is listed.  JoinGathering gets there only
past the tests for room, which count that entry like any other.

    rejoin_iff     so a player in a lobby is let in again only while someone else would be
-/

namespace Ghostbusters

open Py PRUDPServer

variable (env : Env)

namespace Rejoin

/-- The join is a success, and the lobby has the same players in the same order. -/
def Idempotent (e : Event) (w : World) (g : Gathering) : Prop :=
  (∃ r, (step env e w).answer = some (.ok r)) ∧
    ((step env e w).lobby.get g.id).map Gathering.pids = some g.pids

theorem pids_joined_of_mem {w : World} {c : ConnId} {g : Gathering} (h : (w.heap c).userPid ∈ g.pids) :
    (w.joined c g).pids = g.pids := by
  have hjoined := GatheringRegistry.pids_joined g.participants (w.heap c).userPid
    (pidName (w.heap c).userPid) (w.heap c).remote c
  exact hjoined.trans (if_pos h)

/-- Nobody is invited, so a lobby without a public slot lets no one in. -/
theorem not_admitted_of_no_slot {w : World} (hb : Offers.Bounded w) {pid : Nat} {req : Request}
    {g : Gathering} (hg : w.lobby.get (leadingGid req) = some g) (hslot : g.publicRemaining = 0) :
    Game.admitted w pid req = none := by
  cases hadm : Game.admitted w pid req with
  | none => rfl
  | some g' =>
    obtain ⟨hget, -, -, hroom⟩ := Game.admitted_eq_some hadm
    cases hg.symm.trans hget
    rw [(hb.capped _ g hg).uninvited, hslot] at hroom
    rcases hroom with h | h
    · exact absurd h (Finset.notMem_empty _)
    · exact absurd h (Nat.lt_irrefl 0)

section
variable {e : Event} {w : World} {port : Port} {c : ConnId} {req : Request} {g : Gathering}

theorem idempotent_iff (hb : Offers.Bounded w) (hreq : requestOf env w e = some (port, c, req))
    (h1 : req.proto = 60) (h2 : req.method = 5) (hlen : 4 ≤ req.params.length)
    (hgid : leadingGid req = g.id) (hg : w.lobby.get g.id = some g) (hurls : Game.hostUrls w g ≠ [])
    (hin : (w.heap c).userPid ∈ g.pids) :
    Idempotent env e w g ↔ g.isFull = false ∧ 0 < g.publicRemaining ∧
      AllGo env w.heap (w.serverCallId port) (joinPushes w port c g) = true := by
  have hget : w.lobby.get (leadingGid req) = some g := by
    rw [hgid]
    exact hg
  by_cases hslot : 0 < g.publicRemaining
  · have hok := Offers.join_ok_iff env hb hg hslot hreq h1 h2 hlen hgid
    refine ⟨fun h => ⟨(hok.mp h.1).2.1, hslot, (hok.mp h.1).2.2⟩, fun h => ?_⟩
    refine ⟨hok.mpr ⟨hurls, h.1, h.2.2⟩, ?_⟩
    -- the entry is there, so the join only refreshes its connection
    have hadm : Game.admitted w (w.heap c).userPid req = some g := by
      rw [Offers.admitted_of_slot hlen hget hslot, if_neg]
      rw [h.1]
      exact not_or.mpr ⟨hurls, Bool.false_ne_true⟩
    rw [get_step_join env hreq hb.indexed h1 h2 hadm, Option.map_some]
    exact congrArg some (pids_joined_of_mem hin)
  · refine iff_of_false ?_ fun h => hslot h.2.1
    rintro ⟨⟨r, hr⟩, -⟩
    rw [join_answer_of_refused env hreq h1 h2
      (not_admitted_of_no_slot hb hget (Nat.eq_zero_of_not_pos hslot))] at hr
    cases hr

end

/-- **A re-join is a no-op exactly when** there is room for another: the lobby is below the
hard cap and has a public slot, and the pushes of the join can be encoded.  In every state of
every run from a server without lobbies. -/
theorem rejoin_iff (w0 : World) (hl : w0.lobby = Lobby.empty)
    (hp : ∀ c, (w0.heap c).userPid < 2 ^ 32) (es : List Event) (w : World)
    (hw : w = runs (step env) es w0) (e : Event) (port : Port) (c : ConnId) (req : Request)
    (g : Gathering) (hreq : requestOf env w e = some (port, c, req)) (hproto : req.proto = 60)
    (hmethod : req.method = 5) (hlen : 4 ≤ req.params.length) (hgid : leadingGid req = g.id)
    (hg : w.lobby.get g.id = some g) (hurls : Game.hostUrls w g ≠ [])
    (hin : (w.heap c).userPid ∈ g.pids) :
    Idempotent env e w g ↔ g.isFull = false ∧ 0 < g.publicRemaining ∧
      AllGo env w.heap (w.serverCallId port) (joinPushes w port c g) = true := by
  have hb : Offers.Bounded w := by
    rw [hw]
    exact Offers.runs_bounded env hl hp es
  exact idempotent_iff env hb hreq hproto hmethod hlen hgid hg hurls hin

/-! ## A guest that joins twice -/

/-- A lobby with this many public slots, and a guest in it. -/
def joinedOnce (slots : UInt8) : List Event :=
  [.packet .secure (Sample.remote 1)
      (Sample.data 1 60 4 (List.replicate 67 0 ++ slots :: List.replicate 50 0)),
   .packet .secure (Sample.remote 2) (Sample.data 1 60 5 (wU32 10000))]

def lobbyOf (slots : UInt8) : World := runs (step Sample.env) (joinedOnce slots) HostFirst.connected

/-- The guest joins again. -/
def again : Event := .packet .secure (Sample.remote 2) (Sample.data 2 60 5 (wU32 10000))

/-- What the guest asks for again, and the lobby it is in. -/
theorem view_lobbyOf (slots : UInt8) (h : slots = 1 ∨ slots = 2) :
    requestOf Sample.env (lobbyOf slots) again = some (.secure, 1, Offers.joinRequest) ∧
      ((lobbyOf slots).heap 1).userPid = 10001 ∧
      ∃ g, (lobbyOf slots).lobby.get 10000 = some g ∧ g.id = 10000 ∧ g.pids = [10000, 10001] ∧
        Game.hostUrls (lobbyOf slots) g = ["prudp:/address=10.0.0.1".toList] := by
  obtain ⟨hreq, hpid, hview⟩ :
      requestOf Sample.env (lobbyOf slots) again = some (.secure, 1, Offers.joinRequest) ∧
      ((lobbyOf slots).heap 1).userPid = 10001 ∧
      ((lobbyOf slots).lobby.get 10000).map (fun g => (g.id, g.pids, Game.hostUrls (lobbyOf slots) g)) =
        some (10000, [10000, 10001], ["prudp:/address=10.0.0.1".toList]) := by
    rcases h with rfl | rfl <;> decide +kernel
  obtain ⟨g, hg, hv⟩ := Option.map_eq_some_iff.mp hview
  simp only [Prod.mk.injEq] at hv
  exact ⟨hreq, hpid, g, hg, hv⟩

theorem connected_pid (c : ConnId) : (HostFirst.connected.heap c).userPid < 2 ^ 32 := by
  match c with
  | 0 => show 10000 < 2 ^ 32; omega
  | 1 => show 10001 < 2 ^ 32; omega
  | c + 2 => show 0 < 2 ^ 32; omega

theorem rejoin_iff_two : ∃ g, (lobbyOf 2).lobby.get 10000 = some g ∧ 10001 ∈ g.pids ∧
    (Idempotent Sample.env again (lobbyOf 2) g ↔ g.isFull = false ∧ 0 < g.publicRemaining ∧
      AllGo Sample.env (lobbyOf 2).heap ((lobbyOf 2).serverCallId .secure)
        (joinPushes (lobbyOf 2) .secure 1 g) = true) := by
  obtain ⟨hreq, hpid, g, hg, hid, hpids, hurls⟩ := view_lobbyOf 2 (.inr rfl)
  have hin : 10001 ∈ g.pids := by
    rw [hpids]
    decide
  refine ⟨g, hg, hin, rejoin_iff Sample.env HostFirst.connected rfl connected_pid (joinedOnce 2)
    (lobbyOf 2) rfl again .secure 1 Offers.joinRequest g hreq rfl rfl
    (by decide) ?_ ?_ ?_ ?_⟩
  · rw [hid]
    decide +kernel
  · rw [hid]
    exact hg
  · rw [hurls]
    decide
  · rw [hpid]
    exact hin

/-- The last public slot is the guest's own: it is told that the lobby is gone. -/
theorem not_rejoin_one : ∃ g, (lobbyOf 1).lobby.get 10000 = some g ∧
    ((lobbyOf 1).heap 1).userPid ∈ g.pids ∧ Game.hostUrls (lobbyOf 1) g ≠ [] ∧
    (step Sample.env again (lobbyOf 1)).answer = some (Game.sessionVoid Offers.joinRequest) := by
  obtain ⟨-, hpid, g, hg, -, hpids, hurls⟩ := view_lobbyOf 1 (.inl rfl)
  refine ⟨g, hg, ?_, ?_, by decide +kernel⟩
  · rw [hpid, hpids]
    decide
  · rw [hurls]
    decide

end Rejoin
end Ghostbusters
