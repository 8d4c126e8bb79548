import GhostbustersServer.Effects.Aging
import GhostbustersServer.Effects.Moves

/-!
# The two addresses of a participant

An entry has the remote its player joined from and the connection it joined with.
`add_participant` refreshes the connection of a player who is listed already, and leaves
the remote.

    Sits w p          the connection is one there has been, from the listed address
    sits_apply        every move keeps to that, if whoever joins a lobby it is listed in
                      comes from where it is listed
-/

namespace Ghostbusters

open Py PRUDPServer

namespace Address

variable (env : Env)

/-- The participant's connection is one there has been, from the listed address. -/
def Sits (w : World) (p : Participant) : Prop :=
  ∀ c, p.conn = some c → c < w.nextConn ∧ (w.heap c).remote = p.remote

/-- Whoever is let into a lobby it is listed in comes from where it is listed. -/
def RejoinsInPlace (e : Event) (w : World) : Prop :=
  ∀ r ∈ requestOf env w e, r.2.2.proto = 60 → r.2.2.method = 5 →
    ∀ g ∈ Game.admitted w (w.heap r.2.1).userPid r.2.2,
      GatheringRegistry.listedRemote g.participants (w.heap r.2.1).userPid (w.heap r.2.1).remote =
        (w.heap r.2.1).remote

instance (e : Event) (w : World) : Decidable (RejoinsInPlace env e w) := by
  unfold RejoinsInPlace
  infer_instance

/-! ## One event -/

theorem Sits.aged {w w' : World} {p : Participant} (h : Sits w p) (ha : Aged w w') : Sits w' p := by
  intro c hc
  obtain ⟨hlt, hr⟩ := h c hc
  exact ⟨hlt.trans_le ha.nextConn, (ha.home c hlt).2.trans hr⟩

/-- **Every move** lists connections at their addresses. -/
theorem sits_apply {w w' : World} {e : Event} {op : LobbyOp} (hs : Sound w)
    (h : ∀ gid g, w.lobby.get gid = some g → ∀ p ∈ g.participants, Sits w p)
    (hj : RejoinsInPlace env e w) (hp : StepPerforms env w e w' op) {gid : Nat} {g' : Gathering}
    (hg' : (op.apply w.lobby).get gid = some g') {p : Participant} (hin : p ∈ g'.participants) :
    Sits w p := by
  rcases op.back hs.indexed hg' with ⟨g, hg, -, hps⟩ | ⟨pid, remote, raw, conn, hop, -, rfl⟩
  · generalize g'.participants = qs at hps hin
    cases hps with
    | kept hsub => exact h gid g hg p (hsub.subset hin)
    | @joined _ _ _ c hop =>
      subst hop
      cases hp with
      | request hreq hperf =>
        cases hperf with
        | join g1 h1 h2 hadm =>
          cases hg.symm.trans (Game.get_of_admitted hs.indexed hadm)
          rcases GatheringRegistry.mem_joined hin with hold | ⟨-, hconn, hremote⟩
          · exact h _ g hg p hold
          · intro k hk
            cases hconn.symm.trans hk
            refine ⟨(hs.of_requestOf env hreq).1, ?_⟩
            rw [hremote]
            exact (hj _ hreq h1 h2 g hadm).symm
  · subst hop
    cases hp with
    | request hreq hperf =>
      cases hperf with
      | create h1 h2 =>
        rw [List.mem_singleton.mp hin]
        intro k hk
        cases hk
        exact ⟨(hs.of_requestOf env hreq).1, rfl⟩

end Address
end Ghostbusters
