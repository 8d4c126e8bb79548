import GhostbustersServer.Protocols.Notification
import GhostbustersServer.Py.Replicas

/-!
# What clients make of notification events

A client keeps the roster of each gathering it is in, under the gathering's id.  An
event of type 900002 puts a PID into it, one of type 900000 takes it out, and no
other message touches it.
-/

namespace Ghostbusters

open Py

namespace Notification

/-- The `i`-th u32 of an event. -/
def eventField (params : Bytes) (i : Nat) : Nat := ofLE (slice params (4 * i) (4 * i + 4))

/-- The roster that an event is about, by gathering, and what becomes of it. -/
def changeOf (params : Bytes) : Option (Nat × Change Nat) :=
  if eventField params 1 = eventParticipation then
    some (eventField params 3, .insert (eventField params 2))
  else if eventField params 1 = eventEndParticipation then
    some (eventField params 3, .erase (eventField params 2))
  else none

/-- The notice in a request pushed to `c`. -/
def noticeIn (c : ConnId) (proto method : Nat) (params : Bytes) :
    Option ((ConnId × Nat) × Change Nat) :=
  if proto = Notification.proto ∧ method = methodProcessEvent then
    (changeOf params).map fun x => ((c, x.1), x.2)
  else none

/-- A notice that went out. -/
def noticeOf : TraceEntry → Option ((ConnId × Nat) × Change Nat)
  | .sent _ c (.request r) => noticeIn c r.proto r.method r.params
  | _ => none

/-! ## Reading events back -/

/-- The u32 behind whole words. -/
theorem eventField_append (pre rest : Bytes) (i v : Nat) (hi : pre.length = 4 * i)
    (hv : v < 2 ^ 32) : eventField (pre ++ wU32 v ++ rest) i = v := by
  have h := slice_append pre (wU32 v) rest 4 (wU32_length v).symm
  unfold eventField
  rw [← hi, h, ofLE_wU32 v hv]

theorem changeOf_event (source type param1 param2 : Nat) (text : Str) (ht : type < 2 ^ 32)
    (h1 : param1 < 2 ^ 32) (h2 : param2 < 2 ^ 32) :
    changeOf (buildNotificationEvent source type param1 param2 text) =
      if type = eventParticipation then some (param2, .insert param1)
      else if type = eventEndParticipation then some (param2, .erase param1)
      else none := by
  have hf1 : eventField (buildNotificationEvent source type param1 param2 text) 1 = type := by
    unfold buildNotificationEvent
    simp only [List.append_assoc]
    rw [← List.append_assoc]
    exact eventField_append _ _ 1 type (by simp) ht
  have hf2 : eventField (buildNotificationEvent source type param1 param2 text) 2 = param1 := by
    unfold buildNotificationEvent
    rw [List.append_assoc (_ ++ wU32 param1)]
    exact eventField_append _ _ 2 param1 (by simp) h1
  have hf3 : eventField (buildNotificationEvent source type param1 param2 text) 3 = param2 := by
    unfold buildNotificationEvent
    exact eventField_append _ _ 3 param2 (by simp) h2
  unfold changeOf
  rw [hf1, hf2, hf3]

/-- Stats are no news of a roster. -/
theorem changeOf_statsProcessed (gatheringId sourcePid pid txn : Nat) (cash : F32) :
    changeOf (buildStatsProcessed gatheringId sourcePid pid txn cash) = none := by
  have hf : eventField (buildStatsProcessed gatheringId sourcePid pid txn cash) 1 =
      eventStatsProcessed := by
    unfold buildStatsProcessed
    simp only [List.append_assoc]
    rw [← List.append_assoc]
    exact eventField_append _ _ 1 eventStatsProcessed (by simp) (by decide)
  unfold changeOf
  rw [hf, if_neg (by decide), if_neg (by decide)]

theorem noticeIn_of_proto {proto : Nat} (h : proto ≠ Notification.proto) (c : ConnId) (method : Nat)
    (params : Bytes) : noticeIn c proto method params = none := if_neg fun hp => h hp.1

theorem noticeIn_event (c : ConnId) (params : Bytes) :
    noticeIn c proto methodProcessEvent params = (changeOf params).map fun x => ((c, x.1), x.2) :=
  if_pos ⟨rfl, rfl⟩

end Notification
end Ghostbusters
