import GhostbustersServer.Effects.EventMoves
import GhostbustersServer.Guarantees.Reaping
import GhostbustersServer.Py.Since

/-!
# The state is the history

Whatever the server has been through, what it holds is what its events say: a lobby is
there since it was created, a player is in it since it got in, it is locked since it was
closed, an address is connected since its last SYN.

    lobby_history  roster_history  lock_history  table_history
    lobby_lifetime      an id names one lobby, for one stretch of the run
-/

namespace Ghostbusters

open Py Act PRUDPServer

namespace History

variable (env : Env)

/-! ## Lobbies -/

theorem step_alive (e : Event) {w : World} (hw : w.lobby.registry.WellIndexed) (gid : Nat) :
    ((step env e w).lobby.get gid).isSome ↔ (moveOf env e w).Founds w.lobby gid ∨
      ((w.lobby.get gid).isSome ∧ ¬ (moveOf env e w).Ends w.lobby gid) :=
  ((step_moveOf env e hw).isSome_iff gid).trans (alive_apply hw _ gid)

theorem step_listed (e : Event) {w : World} (hw : w.lobby.registry.WellIndexed) (gid pid : Nat) :
    (step env e w).lobby.Listed gid pid ↔ (moveOf env e w).Seats w.lobby gid pid ∨
      (w.lobby.Listed gid pid ∧ ¬ (moveOf env e w).Unseats w.lobby gid pid) :=
  ((step_moveOf env e hw).members.listed_iff gid pid).trans (listed_apply hw _ gid pid)

theorem step_locked (e : Event) {w : World} (hw : w.lobby.registry.WellIndexed) (gid : Nat) :
    (step env e w).lobby.Locked gid ↔ (moveOf env e w).Locks w.lobby gid ∨
      (w.lobby.Locked gid ∧ ¬ (moveOf env e w).Unlocks w.lobby gid) :=
  ((step_moveOf env e hw).locked_same gid).trans (locked_apply hw _ gid)

/-- What every step decides, over the runs of the server. -/
theorem history {F : World → Prop} {starts ends : Event → World → Prop}
    (hF : ∀ e w, Sound w → (F (step env e w) ↔ starts e w ∨ (F w ∧ ¬ ends e w)))
    (hn : ¬ F World.initial) (es : List Event) :
    F (runs (step env) es World.initial) ↔ Since (step env) starts ends es World.initial :=
  runs_iff_since_of_not (fun e _ h => step_sound env e h) hF es World.initial World.initial_sound hn

/-- **A lobby is there exactly since it was created.** -/
theorem lobby_history (es : List Event) (gid : Nat) :
    ((runs (step env) es World.initial).lobby.get gid).isSome ↔
      Since (step env) (fun e w => (moveOf env e w).Founds w.lobby gid)
        (fun e w => (moveOf env e w).Ends w.lobby gid) es World.initial :=
  @history env (fun w => (w.lobby.get gid).isSome) _ _
    (fun e _ h => step_alive env e h.indexed gid) Bool.false_ne_true es

/-- **A player is in a lobby exactly since it got in.** -/
theorem roster_history (es : List Event) (gid pid : Nat) :
    (runs (step env) es World.initial).lobby.Listed gid pid ↔
      Since (step env) (fun e w => (moveOf env e w).Seats w.lobby gid pid)
        (fun e w => (moveOf env e w).Unseats w.lobby gid pid) es World.initial := by
  refine @history env (fun w => w.lobby.Listed gid pid) _ _
    (fun e _ h => step_listed env e h.indexed gid pid) ?_ es
  rintro ⟨g, hg, -⟩
  cases hg

/-- **A lobby is locked exactly since it was closed.** -/
theorem lock_history (es : List Event) (gid : Nat) :
    (runs (step env) es World.initial).lobby.Locked gid ↔
      Since (step env) (fun e w => (moveOf env e w).Locks w.lobby gid)
        (fun e w => (moveOf env e w).Unlocks w.lobby gid) es World.initial := by
  refine @history env (fun w => w.lobby.Locked gid) _ _
    (fun e _ h => step_locked env e h.indexed gid) ?_ es
  rintro ⟨g, hg, -⟩
  cases hg

/-- A lobby that is there keeps its origin for as long as it is. -/
theorem step_origin (e : Event) {w : World} (hw : w.lobby.registry.WellIndexed) {gid : Nat}
    (hlt : gid < w.lobby.registry.gatheringIdSeq) {g' : Gathering}
    (hg' : (step env e w).lobby.get gid = some g') :
    ∃ g, w.lobby.get gid = some g ∧ g'.origin = g.origin := by
  obtain ⟨op, -, hop⟩ := step_lobby env e hw
  rw [hop] at hg'
  rcases op.origin_back hw hg' with h | ⟨_, _, _, _, -, hk, -⟩
  · exact h
  · omega

/-- An id that has been given to a lobby with this origin. -/
structure Given (gid : Nat) (origin : Gathering) (w : World) : Prop where
  indexed : w.lobby.registry.WellIndexed
  old : gid < w.lobby.registry.gatheringIdSeq
  same : ∀ g, w.lobby.get gid = some g → g.origin = origin

theorem Given.step {gid : Nat} {origin : Gathering} (e : Event) {w : World}
    (h : Given gid origin w) : Given gid origin (step env e w) := by
  obtain ⟨op, -, hop⟩ := step_lobby env e h.indexed
  refine ⟨step_indexed env e h.indexed, ?_, ?_⟩
  · rw [hop]
    exact Nat.lt_of_lt_of_le h.old (op.seq_le_apply _)
  · intro g' hg'
    obtain ⟨g, hg, ho⟩ := step_origin env e h.indexed h.old hg'
    exact ho.trans (h.same g hg)

/-- **An id names one lobby**, which is there for one stretch of the run, and keeps the
owner, the address, the parameters, the connection and the invitations it was created with. -/
theorem lobby_lifetime (es : List Event) (gid : Nat) :
    (∃ a b, ∀ m ≤ es.length,
      ((runs (step env) (es.take m) World.initial).lobby.get gid).isSome ↔ a ≤ m ∧ m < b) ∧
    ∀ m n g g', (runs (step env) (es.take m) World.initial).lobby.get gid = some g →
      (runs (step env) (es.take n) World.initial).lobby.get gid = some g' →
      g'.origin = g.origin := by
  have hindexed : ∀ n, (runs (step env) (es.take n) World.initial).lobby.registry.WellIndexed :=
    fun n => (runs_preserves (fun e _ h => step_sound env e h) _ _ World.initial_sound).indexed
  constructor
  · refine exists_span (U := fun w : World => ¬ gid < w.lobby.registry.gatheringIdSeq)
      (L := fun w => (w.lobby.get gid).isSome) (I := fun w => w.lobby.registry.WellIndexed)
      (fun e _ h => step_indexed env e h) ?_ ?_ ?_ es _ (hindexed 0)
    · intro w hw hnew halive
      obtain ⟨g, hg⟩ := Option.isSome_iff_exists.mp halive
      exact hnew (hw.lt hg)
    · intro e w hw hold
      rw [not_not] at hold ⊢
      obtain ⟨op, -, hop⟩ := step_lobby env e hw
      rw [hop]
      exact Nat.lt_of_lt_of_le hold (op.seq_le_apply _)
    · intro e w hw hold hnone halive
      rw [not_not] at hold
      obtain ⟨g', hg'⟩ := Option.isSome_iff_exists.mp halive
      obtain ⟨g, hg, -⟩ := step_origin env e hw hold hg'
      exact hnone (Option.isSome_iff_exists.mpr ⟨g, hg⟩)
  · -- forward in time; the other way round by symmetry
    have hforward : ∀ m n g g', m ≤ n →
        (runs (step env) (es.take m) World.initial).lobby.get gid = some g →
        (runs (step env) (es.take n) World.initial).lobby.get gid = some g' →
        g'.origin = g.origin := by
      intro m n g g' hmn hg hg'
      rw [take_runs es World.initial hmn] at hg'
      refine (runs_preserves (I := Given gid g.origin) (fun e _ h => h.step env e) _ _ ?_).same g' hg'
      refine ⟨hindexed m, (hindexed m).lt hg, ?_⟩
      intro g1 hg1
      cases hg.symm.trans hg1
      rfl
    intro m n g g' hg hg'
    rcases Nat.le_total m n with h | h
    · exact hforward m n g g' h hg hg'
    · exact (hforward n m g' g h hg' hg).symm

/-! ## Connections -/

/-- A SYN opens connection `c` for the remote. -/
def Opens (port : Port) (remote : Remote) (c : ConnId) (e : Event) (w : World) : Prop :=
  match e with
  | .packet port' remote' pkt =>
    port' = port ∧ remote' = remote ∧ pkt.type = .syn ∧ c = w.nextConn
  | _ => False

/-- The remote starts again, disconnects or is reaped. -/
def HangsUp (port : Port) (remote : Remote) (e : Event) (w : World) : Prop :=
  match e with
  | .packet port' remote' pkt =>
    port' = port ∧ remote' = remote ∧ (pkt.type = .syn ∨ remote ∈ hangups env w e)
  | .reap port' _ => port' = port ∧ remote ∈ hangups env w e
  | _ => False

/-- The packets that neither open nor close leave the tables alone. -/
theorem connections_of_packet {port : Port} {remote : Remote} {pkt : PRUDPPacket}
    (hsyn : pkt.type ≠ .syn) (hdisconnect : pkt.type ≠ .disconnect) {w : World} (hw : Sound w) :
    (step env (.packet port remote pkt) w).connections = w.connections := by
  have hstep := step_cases env (.packet port remote pkt) w
  generalize step env (.packet port remote pkt) w = w' at hstep ⊢
  cases hstep with
  | still _ hr => exact hr.connections
  | syn ht _ => exact absurd ht hsyn
  | connect _ _ hq => exact hq.connections
  | connectAck _ _ hq => exact hq.connections
  | unhandled _ _ hr => exact hr.connections
  | @request _ port c body req w1 _ _ hr =>
    exact (request_answered env hw.indexed hr port c body req).connections
  | strayDisconnect ht _ => exact absurd ht hdisconnect
  | disconnect ht _ _ => exact absurd ht hdisconnect

/-- The table of a port after evictions on a port. -/
theorem get?_foldl_evicted (port' : Port) (remotes : List Remote) (w : World) (port : Port)
    (remote : Remote) (c : ConnId) :
    ((remotes.foldl (fun w remote => w.evicted port' remote) w).connections port).get? remote =
        some c ↔
      (w.connections port).get? remote = some c ∧ ¬ (port' = port ∧ remote ∈ remotes) := by
  obtain ⟨hport, hother⟩ := Reaping.connections_foldl_evicted port' remotes w
  by_cases hp : port' = port
  · subst hp
    rw [hport remote]
    by_cases hr : remote ∈ remotes
    · simp [hr]
    · simp [hr]
  · rw [hother port (Ne.symm hp)]
    simp [hp]

theorem step_table (e : Event) {w : World} (hw : Sound w) (port : Port) (remote : Remote)
    (c : ConnId) :
    ((step env e w).connections port).get? remote = some c ↔ Opens port remote c e w ∨
      ((w.connections port).get? remote = some c ∧ ¬ HangsUp env port remote e w) := by
  cases e with
  | packet port' remote' pkt =>
    by_cases hsyn : pkt.type = .syn
    · have hstep : step env (.packet port' remote' pkt) w = (handleSyn env port' remote').after w := by
        unfold step handleEvent handle after
        rw [run_get_bind]
        simp only [hsyn]
      rw [hstep, (handleSyn_spec env port' remote' w).connections]
      show ((Function.update w.connections port' _) port).get? remote = some c ↔
        (port' = port ∧ remote' = remote ∧ pkt.type = .syn ∧ c = w.nextConn) ∨
          ((w.connections port).get? remote = some c ∧
            ¬ (port' = port ∧ remote' = remote ∧ (pkt.type = .syn ∨ _)))
      rw [Function.update_apply]
      by_cases hp : port = port'
      · subst hp
        rw [if_pos rfl, Dict.get?_set]
        by_cases hr : remote = remote'
        · simp [hr, hsyn, eq_comm]
        · simp [hr, Ne.symm hr]
      · simp [hp, Ne.symm hp]
    · by_cases hdisconnect : pkt.type = .disconnect
      · obtain ⟨w1, -, hc, hstep⟩ := step_disconnect env hdisconnect w
        rw [hstep, get?_foldl_evicted, hc]
        show _ ↔ (port' = port ∧ remote' = remote ∧ pkt.type = .syn ∧ c = w.nextConn) ∨
          ((w.connections port).get? remote = some c ∧ ¬ (port' = port ∧ remote' = remote ∧
            (pkt.type = .syn ∨ remote ∈ hangups env w (.packet port' remote' pkt))))
        have hself : remote ∈ hangups env w (.packet port' remote' pkt) → remote' = remote := by
          intro h
          unfold hangups at h
          simp only at h
          split at h
          · exact (List.mem_singleton.mp h).symm
          · cases h
        simp only [hsyn, false_and, and_false, false_or]
        refine and_congr_right fun _ => not_congr (and_congr_right fun _ => ?_)
        exact ⟨fun h => ⟨hself h, h⟩, fun h => h.2⟩
      · rw [connections_of_packet env hsyn hdisconnect hw]
        show _ ↔ (port' = port ∧ remote' = remote ∧ pkt.type = .syn ∧ c = w.nextConn) ∨
          ((w.connections port).get? remote = some c ∧ ¬ (port' = port ∧ remote' = remote ∧
            (pkt.type = .syn ∨ remote ∈ hangups env w (.packet port' remote' pkt))))
        have hnone : hangups env w (.packet port' remote' pkt) = [] :=
          if_neg fun h => hdisconnect h.1
        simp [hsyn, hnone]
  | reap port' timeout =>
    have hstep : step env (.reap port' timeout) w =
        (staleRemotes w port' timeout).foldl (fun w remote => w.evicted port' remote) w :=
      reapIdle_spec port' timeout w
    rw [hstep, get?_foldl_evicted]
    exact (or_iff_right not_false).symm
  | timer id =>
    rw [show (step env (.timer id) w).connections = w.connections from
      (expire_spec env id w).framed.connections]
    simp [Opens, HangsUp]
  | elapse dt => simp [Opens, HangsUp, show (step env (.elapse dt) w).connections = w.connections from rfl]

/-- **An address is connected exactly since its last SYN**, as the connection that the SYN
opened. -/
theorem table_history (es : List Event) (port : Port) (remote : Remote) (c : ConnId) :
    ((runs (step env) es World.initial).connections port).get? remote = some c ↔
      Since (step env) (Opens port remote c) (HangsUp env port remote) es World.initial :=
  @history env (fun w => (w.connections port).get? remote = some c) _ _
    (fun e _ h => step_table env e h port remote c) (fun h => by cases h) es

end History
end Ghostbusters
