import GhostbustersServer.Effects.Events

/-!
# What events do to the database

Whatever an event comes to, of the database it makes calls one after another.

    step_db      what every call and every upload is within, every event is within
-/

namespace Ghostbusters

open Py Act PRUDPServer

variable (env : Env)

/-- The events see the database through what `D` lets pass. -/
abbrev OnDb (D : Db → Db → Prop) (w w' : World) : Prop := D w.db w'.db

section
variable {D : Db → Db → Prop} [IsPreorder Db D]

instance : IsPreorder World (OnDb D) where
  refl := fun w => refl_of D w.db
  trans := fun _ _ _ h1 h2 => trans_of D h1 h2

theorem OnDb.of_same {w w' : World} (h : w'.db = w.db) : OnDb D w w' := by
  unfold OnDb
  rw [h]
  exact refl_of D w.db

/-- A message. -/
theorem send_onDb (port : Port) (c : ConnId) (msg : Message) :
    Within (OnDb D) (RMCDispatcher.send env port c msg) := by
  have hset : ∀ f, Within (OnDb D) (Srv.setConn c f) := fun f => Within.modify fun _ => .of_same rfl
  have hpacket : ∀ pkt, Within (OnDb D) (PRUDPServer.sendPacket env c pkt) := fun pkt => by
    refine Within.bind (conn_within c) fun conn => ?_
    split
    · exact Within.modify fun _ => .of_same rfl
    · exact Within.raise _
  refine Within.bind (Within.attempt ?_) fun r => ?_
  · refine Within.bind (Within.ofExcept _) fun body => Within.bind (conn_within c) fun conn => ?_
    refine Within.bind (conn_within c) fun conn => ?_
    exact Within.bind (hset _) fun _ => hpacket _
  · cases r with
    | ok u => exact Within.modify fun _ => .of_same rfl
    | error e => exact Within.bind (Within.modify fun _ => .of_same rfl) fun _ => Within.raise _

theorem sendRequest_onDb (port : Port) (c : ConnId) (proto method : Nat) (params : Bytes) :
    Within (OnDb D) (RMCDispatcher.sendRequest env port c proto method params) := by
  refine Within.bind Within.get fun w => ?_
  exact Within.bind (Within.modify fun _ => .of_same rfl) fun _ => send_onDb env port c _

theorem registerEx_onDb (c : ConnId) (req : Request) :
    Within (OnDb D) (SecureConnection.registerEx c req) := by
  have hset : ∀ f, Within (OnDb D) (Srv.setConn c f) := fun f => Within.modify fun _ => .of_same rfl
  apply withParsed_within
  intro urls
  refine Within.bind ?_ fun cid => Within.bind (conn_within c) fun conn => ?_
  · refine Within.bind (conn_within c) fun conn => ?_
    split
    · exact Within.pure _
    · refine Within.bind Within.get fun w => Within.bind (Within.modify fun _ => .of_same rfl) fun _ => ?_
      exact Within.bind (hset _) fun _ => Within.pure _
  · exact Within.bind (hset _) fun _ => Within.pure _

/-- **Every event** is to the database what its calls are. -/
theorem step_db (hcall : ∀ {α : Type} {m : Act Db Exc α}, Db.Call env m → Within D m)
    (hmatch : ∀ pid vec0 vec1 rows, Game.computeLeaderboardRows vec0 vec1 = .ok rows →
      Within D (Game.matchTransaction env pid vec0 rows)) (e : Event) (w : World) :
    D w.db (step env e w).db := by
  have huse : ∀ {α : Type} {m : Act Db Exc α}, Within D m → Within (OnDb D) (Srv.useDb m) := by
    intro α m hm w
    exact hm w.db
  have hallows : Allows env (OnDb D) :=
    { useDb := fun hm => huse (hcall hm)
      random := fun _ _ => .of_same rfl
      push := fun port c proto method params _ => sendRequest_onDb env port c proto method params
      modifyLobby := fun _ _ => .of_same rfl
      event := fun port c _ _ _ _ _ _ _ => sendRequest_onDb env port c _ _ _
      received := fun _ _ hr => .of_same hr.db
      logged := fun _ _ _ => .of_same rfl
      withConn := fun _ _ _ _ => .of_same rfl
      evicted := fun _ _ _ => .of_same rfl
      opened := fun _ _ _ => .of_same rfl
      answer := fun port c msg _ => send_onDb env port c msg
      register := registerEx_onDb }
  exact hallows.step_all (fun pid vec0 vec1 rows h => huse (hmatch pid vec0 vec1 rows h))
    (sendRequest_onDb env) (fun _ _ => .of_same rfl) e w

end
end Ghostbusters
