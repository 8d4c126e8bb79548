import GhostbustersServer.Py.Ledger
import GhostbustersServer.Effects.Aging
import GhostbustersServer.Effects.Ids
import GhostbustersServer.Effects.Moves
import GhostbustersServer.Effects.Reports
import GhostbustersServer.Guarantees.Capacity

/-!
# The transaction ids of stats events

A client discards a stats event whose id is not above that of the last one.  The counter
of a player goes up with the player's own reports; the events of a batch go to everybody
in the lobby, under the counters as they stand.

    Due           a batch is fired for players who have all had a report counted since their
                  last event
    increasing_of_due    then the ids of every player strictly increase from above 0
-/

namespace Ghostbusters
namespace Transactions

open Py Act PRUDPServer

/-! ## What clients see -/

/-- Whom a stats event is for, and its id: the PID in front of the blob, and `param2`. -/
def statsIn (params : Bytes) : Option (Nat × Nat) :=
  if Notification.eventField params 1 = Notification.eventStatsProcessed then
    some (ofLE (slice params 22 26), Notification.eventField params 3)
  else none

def statsOfRequest (proto method : Nat) (params : Bytes) : Option (Nat × Nat) :=
  if proto = Notification.proto ∧ method = Notification.methodProcessEvent then statsIn params
  else none

/-- A stats event that went out. -/
def statsOf : TraceEntry → Option (Nat × Nat)
  | .sent _ _ (.request r) => statsOfRequest r.proto r.method r.params
  | _ => none

def statsEvents (w : World) : List (Nat × Nat) := w.trace.filterMap statsOf

/-- **The property.**  The ids of each player, behind a 0. -/
def Increasing (w : World) : Prop :=
  ∀ pid, (0 :: Ledger.sentTo pid (statsEvents w)).Pairwise (· < ·)

theorem statsIn_event (source type param1 param2 : Nat) (text : Str) (ht : type < 2 ^ 32)
    (hne : type ≠ Notification.eventStatsProcessed) :
    statsIn (Notification.buildNotificationEvent source type param1 param2 text) = none := by
  have hf : Notification.eventField
      (Notification.buildNotificationEvent source type param1 param2 text) 1 = type := by
    unfold Notification.buildNotificationEvent
    simp only [List.append_assoc]
    rw [← List.append_assoc]
    exact Notification.eventField_append _ _ 1 type (by simp) ht
  unfold statsIn
  rw [hf, if_neg hne]

theorem statsIn_statsProcessed (gatheringId sourcePid : Nat) {pid txn : Nat} (cash : F32)
    (hp : pid < 2 ^ 32) (ht : txn < 2 ^ 32) :
    statsIn (Notification.buildStatsProcessed gatheringId sourcePid pid txn cash) =
      some (pid, txn) := by
  obtain ⟨rest, hrest⟩ : ∃ rest, Notification.statsBlob pid txn cash = wU32 1 ++ wU32 pid ++ rest := by
    unfold Notification.statsBlob
    simp only [List.append_assoc]
    exact ⟨_, rfl⟩
  have hone : Notification.eventField
      (Notification.buildStatsProcessed gatheringId sourcePid pid txn cash) 1 =
        Notification.eventStatsProcessed := by
    unfold Notification.buildStatsProcessed
    simp only [List.append_assoc]
    rw [← List.append_assoc]
    exact Notification.eventField_append _ _ 1 _ (by simp) (by decide)
  have hthree : Notification.eventField
      (Notification.buildStatsProcessed gatheringId sourcePid pid txn cash) 3 = txn := by
    unfold Notification.buildStatsProcessed
    dsimp only
    rw [List.append_assoc (_ ++ wU32 txn)]
    exact Notification.eventField_append _ _ 3 txn (by simp) ht
  have hpid : slice (Notification.buildStatsProcessed gatheringId sourcePid pid txn cash) 22 26 =
      wU32 pid := by
    unfold Notification.buildStatsProcessed
    dsimp only
    rw [hrest, ← List.append_assoc, ← List.append_assoc]
    exact slice_append _ (wU32 pid) rest 4 (wU32_length pid).symm
  unfold statsIn
  rw [hone, if_pos rfl, hthree, hpid, ofLE_wU32 pid hp]

/-! ## What is posted -/

/-- Between two states these stats events went out, and no counter has changed. -/
def Posts (events : List (Nat × Nat)) (w w' : World) : Prop :=
  statsEvents w' = statsEvents w ++ events ∧ w'.statsTxnId = w.statsTxnId

def Silent : World → World → Prop := Posts []

instance : IsPreorder World Silent where
  refl := fun _ => ⟨(List.append_nil _).symm, rfl⟩
  trans := fun _ _ _ h1 h2 =>
    ⟨by rw [h2.1, h1.1, List.append_nil, List.append_nil], h2.2.trans h1.2⟩

theorem Posts.trans {a b c : World} {ms ns : List (Nat × Nat)} (h1 : Posts ms a b)
    (h2 : Posts ns b c) : Posts (ms ++ ns) a c :=
  ⟨by rw [h2.1, h1.1, List.append_assoc], h2.2.trans h1.2⟩

theorem Posts.silent {a b c : World} {ms : List (Nat × Nat)} (h1 : Posts ms a b)
    (h2 : Silent b c) : Posts ms a c := by
  have h := h1.trans h2
  rwa [List.append_nil] at h

theorem Silent.of_log {w w' : World} (hlog : LogGrows (fun e => statsOf e = none) w w')
    (htxn : w'.statsTxnId = w.statsTxnId) : Silent w w' := by
  obtain ⟨new, hnew, hall⟩ := hlog
  refine ⟨?_, htxn⟩
  unfold statsEvents
  rw [hnew, List.filterMap_append, List.filterMap_eq_nil_iff.mpr hall]

theorem statsOf_of_not_message {e : TraceEntry} (h : ¬ e.IsMessage) : statsOf e = none := by
  cases e <;> first | rfl | exact absurd trivial h

theorem Silent.of_inert {w w' : World} (h : Inert w w') : Silent w w' :=
  .of_log (h.log.mono fun _ he => statsOf_of_not_message he) h.statsTxnId

theorem Silent.logged (w : World) {e : TraceEntry} (h : statsOf e = none) : Silent w (w.logged e) :=
  .of_log ⟨[e], rfl, by simpa using h⟩ rfl

variable (env : Env)

def statsOfPush (p : Push) : Option (Nat × Nat) := statsOfRequest p.proto p.method p.params

theorem statsOfPush_event (c : ConnId) (params : Bytes) :
    statsOfPush (.event c params) = statsIn params := by
  unfold statsOfPush statsOfRequest
  exact if_pos ⟨rfl, rfl⟩

/-- **One push**: out, or failed. -/
theorem push_posts (port : Port) (p : Push) (w : World) :
    (∃ w', (p.send env port).run w = (.ok (), w') ∧ Posts (statsOfPush p).toList w w') ∨
    ∃ e w', (p.send env port).run w = (.error e, w') ∧ Silent w w' := by
  -- the call id is used up before the push is sent
  let w0 : World := { w with
    serverCallId := Function.update w.serverCallId port (w.serverCallId port + 1) }
  let msg : Message := .request (p.request (w.serverCallId port))
  have hrun : (p.send env port).run w = (RMCDispatcher.send env port p.conn msg).run w0 := rfl
  rw [hrun]
  obtain ⟨w1, hi, h | ⟨e, h⟩⟩ := Inert.send_after env port p.conn msg w0
  · refine .inl ⟨_, h, ?_⟩
    have hsent : Posts (statsOfPush p).toList w1 (w1.logged (.sent port p.conn msg)) := by
      refine ⟨?_, rfl⟩
      show List.filterMap statsOf (w1.trace ++ [.sent port p.conn msg]) = _
      rw [List.filterMap_append]
      refine congrArg (statsEvents w1 ++ ·) ?_
      have hof : statsOf (.sent port p.conn msg) = statsOfPush p := rfl
      cases hp : statsOfPush p with
      | none => exact List.filterMap_cons_none (hof.trans hp)
      | some m => exact List.filterMap_cons_some (hof.trans hp)
    exact (Silent.of_inert hi).trans hsent
  · refine .inr ⟨e, _, h, ?_⟩
    exact trans_of Silent (Silent.of_inert hi) (Silent.logged w1 rfl)

/-- **A list of pushes**, up to the first that fails. -/
theorem sendAll_posts (port : Port) (ps : List Push) (w : World) :
    ∃ n, Posts ((ps.take n).filterMap statsOfPush) w
      ((Act.forEach ps (Push.send env port)).after w) := by
  induction ps generalizing w with
  | nil => exact ⟨0, refl_of Silent w⟩
  | cons p ps ih =>
    have hrun : (Act.forEach (p :: ps) (Push.send env port)).after w =
        ((p.send env port >>= fun _ => Act.forEach ps (Push.send env port)).run w).2 := rfl
    rw [hrun]
    rcases push_posts env port p w with ⟨w1, h, hp⟩ | ⟨e, w1, h, hs⟩
    · obtain ⟨n, hn⟩ := ih w1
      refine ⟨n + 1, ?_⟩
      rw [run_bind_ok h, List.take_succ_cons]
      have hcons : (p :: ps.take n).filterMap statsOfPush =
          (statsOfPush p).toList ++ (ps.take n).filterMap statsOfPush := by
        cases hv : statsOfPush p with
        | none => rw [List.filterMap_cons_none hv]; rfl
        | some m => rw [List.filterMap_cons_some hv]; rfl
      rw [hcons]
      exact hp.trans hn
    · refine ⟨0, ?_⟩
      rw [run_bind_error h]
      exact hs

/-! ## Events that post nothing -/

theorem sendRequest_silent (port : Port) (c : ConnId) (proto method : Nat) (params : Bytes)
    (h : statsOfRequest proto method params = none) :
    Within Silent (RMCDispatcher.sendRequest env port c proto method params) := by
  intro w
  rcases push_posts env port ⟨c, proto, method, params⟩ w with ⟨w1, hr, hp⟩ | ⟨e, w1, hr, hs⟩
  · have hnone : statsOfPush ⟨c, proto, method, params⟩ = none := h
    rw [hnone] at hp
    exact (congrArg (fun out : Except Exc Unit × World => Silent w out.2) hr).mpr hp
  · exact (congrArg (fun out : Except Exc Unit × World => Silent w out.2) hr).mpr hs

theorem answer_silent (port : Port) (c : ConnId) (msg : Message) (hm : msg.IsAnswer) :
    Within Silent (RMCDispatcher.send env port c msg) := by
  have hof : statsOf (.sent port c msg) = none := by
    cases msg with
    | request r => exact hm.elim
    | ok r => rfl
    | error r => rfl
  intro w
  unfold WithinAt
  obtain ⟨w1, hi, h | ⟨e, h⟩⟩ := Inert.send_after env port c msg w
  · rw [h]
    exact trans_of Silent (Silent.of_inert hi) (Silent.logged w1 hof)
  · rw [h]
    exact trans_of Silent (Silent.of_inert hi) (Silent.logged w1 rfl)

theorem admits_silent : Admits env Silent where
  inert := fun _ _ h => .of_inert h
  push := fun port c proto method params hne =>
    sendRequest_silent env port c proto method params (if_neg fun h => hne h.1)
  event := fun port c source type param1 param2 text ht hne => by
    refine sendRequest_silent env port c _ _ _ ?_
    exact (if_pos ⟨rfl, rfl⟩).trans (statsIn_event source type param1 param2 text ht hne)
  register := fun c req w => by
    have h := registerEx_fixes c req w
    exact .of_log (.of_same (congrArg Prod.fst h)) (congrArg (fun x => x.2.2) h)
  answer := answer_silent env
  opened := fun w port remote => .of_log (.of_same rfl) rfl

/-! ## A batch -/

def counter (w : World) (pid : Nat) : Nat := (w.statsTxnId.get? pid).getD 0

/-- The players of a lobby that are connected. -/
def recipients (w : World) (port : Port) (g : Gathering) : List Nat :=
  g.participants.filterMap fun p => ((w.connections port).get? p.remote).map fun _ => p.pid

theorem recipients_sublist (w : World) (port : Port) (g : Gathering) :
    (recipients w port g).Sublist g.pids := by
  unfold recipients Gathering.pids
  induction g.participants with
  | nil => exact .slnil
  | cons p ps ih =>
    cases hc : (w.connections port).get? p.remote with
    | none =>
      rw [List.filterMap_cons_none (by rw [hc]; rfl)]
      exact ih.cons p.pid
    | some c =>
      rw [List.filterMap_cons_some (b := p.pid) (by rw [hc]; rfl)]
      exact ih.cons_cons p.pid

/-- What the pushes of a batch say. -/
theorem map_batchPushes {w : World} {port : Port} {g : Gathering} (cash : List (Nat × F32))
    (hp : ∀ pid ∈ g.pids, pid < 2 ^ 32) (hc : ∀ pid ∈ recipients w port g, counter w pid < 2 ^ 32) :
    (Game.batchPushes env w port g cash).map statsOfPush =
      (recipients w port g).map fun pid => some (pid, counter w pid) := by
  unfold Game.batchPushes Game.statsPushes
  have hmem : ∀ p ∈ g.participants, ((w.connections port).get? p.remote).isSome →
      p.pid ∈ recipients w port g := by
    intro p hin hsome
    obtain ⟨c, hc⟩ := Option.isSome_iff_exists.mp hsome
    exact List.mem_filterMap.mpr ⟨p, hin, by rw [hc]; rfl⟩
  rw [List.map_filterMap, recipients, List.map_filterMap]
  refine List.filterMap_congr fun p hin => ?_
  cases hget : (w.connections port).get? p.remote with
  | none => rfl
  | some c =>
    have hlt := hc p.pid (hmem p hin (by rw [hget]; rfl))
    have hpid := hp p.pid (List.mem_map_of_mem hin)
    exact congrArg some ((statsOfPush_event _ _).trans (statsIn_statsProcessed _ _ _ hpid hlt))

/-- **A batch that is fired** is posted up to the first event that fails. -/
theorem fire_posts (port : Port) {gid : Nat} (reason : Reason) {w : World} {g : Gathering}
    (hg : w.lobby.get gid = some g) (hr : g.receivedM12Pids ≠ ∅) (hp : ∀ pid ∈ g.pids, pid < 2 ^ 32)
    (hc : ∀ pid ∈ recipients w port g, counter w pid < 2 ^ 32) :
    ∃ n, Posts (((recipients w port g).take n).map fun pid => (pid, counter w pid)) w
      ((Game.fireStatsProcessedBatch env port gid reason).after w) := by
  let w1 := Game.firing gid reason g.pids w
  have hfiring : Silent w w1 := .of_log ⟨[.statsBatch gid reason g.pids], rfl, by simp [statsOf]⟩ rfl
  have hannounce : ∃ n, Posts (((recipients w port g).take n).map fun pid => (pid, counter w pid)) w1
      ((Game.announceBatch env port g).after w1) := by
    unfold after
    cases hread : ((Game.readCash env g).run w1.db).1 with
    | error e =>
      rw [Game.announceBatch_unread env port hread]
      exact ⟨0, Silent.of_log (.of_same rfl) rfl⟩
    | ok cash =>
      rw [Game.announceBatch_run env port hread]
      obtain ⟨n, hn⟩ := sendAll_posts env port (Game.batchPushes env w1 port g cash)
        { w1 with db := (Game.readCash env g).after w1.db }
      refine ⟨n, ?_⟩
      have hsays := map_batchPushes env (w := w1) cash hp hc
      have htaken : ((Game.batchPushes env w1 port g cash).take n).filterMap statsOfPush =
          ((recipients w port g).take n).map fun pid => (pid, counter w pid) := by
        have hid : ∀ ps : List Push, ps.filterMap statsOfPush = (ps.map statsOfPush).filterMap id :=
          fun ps => by rw [List.filterMap_map, Function.id_comp]
        rw [hid, List.map_take, hsays, ← List.map_take, List.filterMap_map]
        exact congrFun List.filterMap_eq_map' _
      rw [htaken] at hn
      exact hn
  obtain ⟨n, hn⟩ := hannounce
  refine ⟨n, hfiring.trans ?_⟩
  unfold after
  rw [Game.fire_run env port reason hg hr]
  rcases run_bind_cases (Game.announceBatch env port g)
    (fun _ => Srv.setGathering gid Game.clearBatch) w1 with ⟨e, -, hb⟩ | ⟨u, -, hb⟩
  · rw [hb]
    exact hn
  · rw [hb]
    exact hn.silent (.of_log (.of_same rfl) rfl)

/-! ## What an event counts, and whom it addresses -/

/-- The player whose upload an event delivers, if it is counted. -/
def countedPid (e : Event) (w : World) : Option Nat :=
  match requestOf env w e with
  | some (_, c, req) =>
    if req.Uploads ∧ Game.Accepted env (w.heap c).userPid req.params w.db then
      some (w.heap c).userPid
    else none
  | none => none

/-- The counters behind an event. -/
def counters (e : Event) (w : World) : Nat → Nat :=
  match countedPid env e w with
  | some pid => Function.update (counter w) pid (counter w pid + 1)
  | none => counter w

/-- The batch that an upload fires, from its port. -/
def completedBy (w : World) (port : Port) (c : ConnId) (req : Request) : Option (Port × Gathering) :=
  if req.Uploads ∧ Game.Arrives env (w.heap c).userPid req.params w.db then
    (Game.completing w.lobby (w.heap c).userPid).map fun g => (port, g)
  else none

/-- The batch that a timer fires. -/
def timedOut (w : World) (id : TimerId) : Option (Port × Gathering) :=
  (w.lobby.timers.find? fun t => t.id == id).bind fun t =>
    ((w.lobby.get t.gatheringId).filter fun g =>
      !decide (g.receivedM12Pids = ∅ ∨ g.expectedM12Pids ⊆ g.receivedM12Pids)).map fun g => (t.port, g)

def fires (e : Event) (w : World) : Option (Port × Gathering) :=
  match requestOf env w e, e with
  | some (port, c, req), _ => completedBy env w port c req
  | none, .timer id => timedOut w id
  | none, _ => none

/-- The players that an event posts stats events to, in order. -/
def addressed (e : Event) (w : World) : List Nat :=
  ((fires env e w).map fun r => recipients w r.1 r.2).getD []

/-- **One event** posts to those it addresses, up to the first that fails. -/
def Posted (e : Event) (w : World) : Prop :=
  ∃ n, statsEvents (step env e w) =
      statsEvents w ++ ((addressed env e w).take n).map (fun pid => (pid, counters env e w pid)) ∧
    counter (step env e w) = counters env e w

variable {env} {e : Event} {w : World}

theorem Posted.of_silent (hs : Silent w (step env e w)) (hc : countedPid env e w = none) :
    Posted env e w := by
  have hcount : counters env e w = counter w := by
    unfold counters
    rw [hc]
  refine ⟨0, hs.1, ?_⟩
  unfold counter at hcount ⊢
  rw [hcount, hs.2]

/-- The event fires its batch in a state with the counters it leaves. -/
theorem Posted.of_fires (w1 : World) {port : Port} {gid : Nat} {reason : Reason} {g : Gathering}
    (hf : fires env e w = some (port, g)) (hlog : statsEvents w1 = statsEvents w)
    (hcount : counter w1 = counters env e w) (hconn : w1.connections = w.connections)
    (hg : w1.lobby.get gid = some g) (hr : g.receivedM12Pids ≠ ∅) (hp : ∀ pid ∈ g.pids, pid < 2 ^ 32)
    (hc : ∀ pid ∈ addressed env e w, counters env e w pid < 2 ^ 32)
    (hs : Silent ((Game.fireStatsProcessedBatch env port gid reason).after w1) (step env e w)) :
    Posted env e w := by
  have haddr : addressed env e w = recipients w1 port g := by
    unfold addressed recipients
    rw [hf, hconn]
    rfl
  rw [haddr, ← hcount] at hc
  obtain ⟨n, hn⟩ := fire_posts env port reason hg hr hp hc
  have hall := hn.silent hs
  refine ⟨n, ?_, ?_⟩
  · rw [hall.1, hlog, haddr, hcount]
  · rw [← hcount]
    unfold counter
    rw [hall.2]

theorem pids_of_allPlayers {l : Lobby} {P : Nat → Prop} (h : l.AllPlayers P) {gid : Nat} {g : Gathering}
    (hg : l.get gid = some g) : ∀ pid ∈ g.pids, P pid := by
  intro pid hin
  obtain ⟨p, hmem, rfl⟩ := List.mem_map.mp hin
  exact (h gid g hg).2 p hmem

variable (env) in
theorem timer_posted (id : TimerId) (hp : w.lobby.AllPlayers (· < 2 ^ 32))
    (hc : ∀ pid ∈ addressed env (.timer id) w, counters env (.timer id) w pid < 2 ^ 32) :
    Posted env (.timer id) w := by
  have hreq : requestOf env w (.timer id) = none := requestOf_none env rfl
  have hnone : countedPid env (.timer id) w = none := by
    unfold countedPid
    rw [hreq]
  have hcount : counters env (.timer id) w = counter w := by
    unfold counters
    rw [hnone]
  have hfires : fires env (.timer id) w = timedOut w id := by
    unfold fires
    rw [hreq]
  have hstep : step env (.timer id) w = (expire env id).after w := rfl
  unfold expire after at hstep
  rw [run_get_bind] at hstep
  cases ht : w.lobby.timers.find? fun t => t.id == id with
  | none =>
    rw [ht] at hstep
    exact .of_silent (by rw [hstep]; exact refl_of Silent w) hnone
  | some t =>
    rw [ht] at hstep
    let w1 := w.withLobby (w.lobby.forget id)
    change step env (.timer id) w = ((Game.onM12Timeout env t.port t.gatheringId).run w1).2 at hstep
    unfold Game.onM12Timeout at hstep
    rw [run_get_bind] at hstep
    have hget : w1.lobby.get t.gatheringId = w.lobby.get t.gatheringId := rfl
    cases hg : w.lobby.get t.gatheringId with
    | none =>
      rw [hget, hg] at hstep
      exact .of_silent (by rw [hstep]; exact .of_log (.of_same rfl) rfl) hnone
    | some g =>
      rw [hget, hg] at hstep
      by_cases hdone : g.receivedM12Pids = ∅ ∨ g.expectedM12Pids ⊆ g.receivedM12Pids
      · simp only [if_pos hdone] at hstep
        exact .of_silent (by rw [hstep]; exact .of_log (.of_same rfl) rfl) hnone
      · simp only [if_neg hdone] at hstep
        have hf : fires env (.timer id) w = some (t.port, g) := by
          rw [hfires]
          unfold timedOut
          rw [ht, Option.bind_some, hg, Option.filter_some, if_pos (by simp [hdone])]
          rfl
        have hlast : Silent ((Game.fireStatsProcessedBatch env t.port t.gatheringId .timeout).after w1)
            (step env (.timer id) w) := by
          rw [hstep]
          exact refl_of Silent _
        exact .of_fires w1 hf rfl hcount.symm rfl (hget.trans hg)
          (fun he => hdone (.inl he)) (pids_of_allPlayers hp hg) hc hlast

theorem counter_bumped (pid : Nat) {w w' : World} (h : w'.statsTxnId = Game.bumped pid w) :
    counter w' = Function.update (counter w) pid (counter w pid + 1) := by
  funext k
  unfold counter
  rw [h, Function.update_apply]
  unfold Game.bumped
  rw [Dict.get?_set]
  split <;> rfl

/-- Behind the counter, of an upload that `w` counts. -/
structure Counted (pid : Nat) (w w1 : World) : Prop where
  events : statsEvents w1 = statsEvents w
  txn : w1.statsTxnId = Game.bumped pid w
  lobby : w1.lobby = w.lobby
  connections : w1.connections = w.connections

theorem Counted.of_counted {w1 : World} (hs : Silent w w1) (hl : w1.lobby = w.lobby)
    (hc : w1.connections = w.connections) {pid : Nat} (params : Bytes) {new : List TraceEntry}
    (hnew : ∀ x ∈ new, ∃ vec0 rows, x = .persisted pid vec0 rows) :
    Counted pid w { Game.counted env pid params w1 with trace := w1.trace ++ new } := by
  have hnone : new.filterMap statsOf = [] := by
    refine List.filterMap_eq_nil_iff.mpr fun x hx => ?_
    obtain ⟨vec0, rows, rfl⟩ := hnew x hx
    rfl
  refine ⟨?_, ?_, hl, hc⟩
  · show List.filterMap statsOf (w1.trace ++ new) = _
    rw [List.filterMap_append, hnone, List.append_nil]
    exact hs.1.trans (List.append_nil _)
  · show Game.bumped pid w1 = Game.bumped pid w
    unfold Game.bumped
    rw [hs.2]

/-- The event is counted, and posts nothing. -/
theorem Posted.of_counted {pid : Nat} {w1 : World} (hc : countedPid env e w = some pid)
    (h1 : Counted pid w w1) (hs : Silent w1 (step env e w)) : Posted env e w := by
  have hcount : counters env e w = Function.update (counter w) pid (counter w pid + 1) := by
    unfold counters
    rw [hc]
  refine ⟨0, ?_, ?_⟩
  · rw [hs.1, h1.events]
    rfl
  · rw [hcount, ← counter_bumped pid h1.txn]
    unfold counter
    rw [hs.2]

section
variable {port : Port} {c : ConnId} {req : Request}
  (hreq : requestOf env w e = some (port, c, req)) (hu : req.Uploads)
include hreq hu

/-- The state in which an upload is handled. -/
theorem exists_handled : ∃ w1, Silent w w1 ∧
    (w1.lobby = w.lobby ∧ w1.db = w.db ∧ w1.connections = w.connections ∧
      (w1.heap c).userPid = (w.heap c).userPid) ∧
    Silent ((Game.reportStats env port c req).after w1) (step env e w) := by
  obtain ⟨body, w1, hr, hlast⟩ := Game.step_uploads env (answer_silent env port c) hreq hu
  exact ⟨_, trans_of Silent (.of_inert (.of_received hr)) (Silent.logged w1 rfl),
    ⟨hr.lobby, hr.db, hr.connections, hr.userPid c⟩, hlast⟩

theorem refused_posted (hacc : ¬ Game.Accepted env (w.heap c).userPid req.params w.db) :
    Posted env e w := by
  have hnone : countedPid env e w = none := by
    unfold countedPid
    rw [hreq]
    exact if_neg fun h => hacc h.2
  obtain ⟨w1, hs, ⟨-, hdb, -, hpid⟩, hlast⟩ := exists_handled hreq hu
  rw [← hpid, ← hdb] at hacc
  obtain ⟨e', hrun⟩ := Game.reportStats_refused env port hacc
  unfold after at hlast
  rw [hrun] at hlast
  exact .of_silent (trans_of Silent hs (trans_of Silent (.of_log (.of_same rfl) rfl) hlast)) hnone

/-- Behind the counter runs the batch, if nothing raises before it. -/
theorem exists_counted (hacc : Game.Accepted env (w.heap c).userPid req.params w.db) :
    ∃ w1, Counted (w.heap c).userPid w w1 ∧
      (¬ Game.Arrives env (w.heap c).userPid req.params w.db → Silent w1 (step env e w)) ∧
      (Game.Arrives env (w.heap c).userPid req.params w.db →
        Silent ((Game.trackReport env port (w.heap c).userPid).after w1) (step env e w)) := by
  obtain ⟨w1, hs, ⟨hl, hdb, hconn, hpid⟩, hlast⟩ := exists_handled hreq hu
  by_cases harr : Game.Arrives env (w.heap c).userPid req.params w.db
  · have harr1 := harr
    rw [← hpid, ← hdb] at harr1
    obtain ⟨new, hnew, hafter⟩ := Game.reportStats_arrives env port harr1
    rw [hpid] at hnew hafter
    rw [hafter] at hlast
    exact ⟨_, .of_counted hs hl hconn req.params hnew, fun hn => absurd harr hn, fun _ => hlast⟩
  · have hm : ¬ (Game.masksOf (w.heap c).userPid req.params).isOk = true := fun hm =>
      harr ⟨hacc, hm⟩
    rw [← hpid, ← hdb] at hacc
    obtain ⟨body, new, hrun, hnew⟩ := Game.reportStats_counted env port hacc
    rw [hpid] at hrun hnew
    unfold after at hlast
    rw [hrun] at hlast
    cases hmask : Game.masksOf (w.heap c).userPid req.params with
    | ok u =>
      rw [hmask] at hm
      exact absurd rfl hm
    | error e' =>
      rw [hmask] at hlast
      exact ⟨_, .of_counted hs hl hconn req.params hnew, fun _ => hlast, fun h => absurd h harr⟩

variable (env) in
theorem upload_posted (hw : w.lobby.registry.WellIndexed) (hp : w.lobby.AllPlayers (· < 2 ^ 32))
    (hc : ∀ pid ∈ addressed env e w, counters env e w pid < 2 ^ 32) : Posted env e w := by
  by_cases hacc : Game.Accepted env (w.heap c).userPid req.params w.db
  swap
  · exact refused_posted hreq hu hacc
  have hsome : countedPid env e w = some (w.heap c).userPid := by
    unfold countedPid
    rw [hreq]
    exact if_pos ⟨hu, hacc⟩
  obtain ⟨w1, h1, hlost, htracked⟩ := exists_counted hreq hu hacc
  by_cases harr : Game.Arrives env (w.heap c).userPid req.params w.db
  swap
  · exact .of_counted hsome h1 (hlost harr)
  have hlast := htracked harr
  have hw1 : w1.lobby.registry.WellIndexed := by rw [h1.lobby]; exact hw
  unfold after at hlast
  cases hcomp : Game.completing w.lobby (w.heap c).userPid with
  | none =>
    rw [Game.trackReport_waits env port hw1 (by rw [h1.lobby]; exact hcomp) true] at hlast
    exact .of_counted hsome h1 hlast
  | some g =>
    rw [Game.trackReport_fires env port hw1 (by rw [h1.lobby]; exact hcomp)] at hlast
    have hfires : fires env e w = some (port, g) := by
      unfold fires
      rw [hreq]
      exact (if_pos ⟨hu, harr⟩).trans (congrArg (Option.map fun g => (port, g)) hcomp)
    obtain ⟨g0, hs, rfl, -⟩ := Game.completing_eq_some hcomp
    rw [Game.id_reported] at hlast
    let w2 := w1.withLobby (w1.lobby.addReport g0.id (w.heap c).userPid)
    have hget : w2.lobby.get g0.id = some (Game.reported g0 (w.heap c).userPid) := by
      refine Game.get_addReport_sender hw1 ?_
      rw [h1.lobby]
      exact hs
    have hcount : counter w2 = counters env e w := by
      unfold counters
      rw [hsome]
      exact counter_bumped _ h1.txn
    have hplayers : ∀ pid ∈ (Game.reported g0 (w.heap c).userPid).pids, pid < 2 ^ 32 := by
      rw [Game.pids_reported]
      exact pids_of_allPlayers hp (Game.get_of_senderGathering hw hs)
    exact .of_fires w2 hfires h1.events hcount h1.connections hget
      (Finset.ne_empty_of_mem (Game.mem_received_reported g0 _)) hplayers hc hlast

end

variable (env) in
theorem step_posted (e : Event) (hw : w.lobby.registry.WellIndexed)
    (hp : w.lobby.AllPlayers (· < 2 ^ 32))
    (hc : ∀ pid ∈ addressed env e w, counters env e w pid < 2 ^ 32) : Posted env e w := by
  have hnone : ∀ port c req, requestOf env w e = some (port, c, req) → ¬ req.Uploads →
      countedPid env e w = none := by
    intro port c req hreq hu
    unfold countedPid
    rw [hreq]
    exact if_neg fun h => hu h.1
  by_cases hup : ∃ port c req, requestOf env w e = some (port, c, req) ∧ req.Uploads
  · obtain ⟨port, c, req, hreq, hu⟩ := hup
    exact upload_posted env hreq hu hw hp hc
  · by_cases htimer : ∃ id, e = .timer id
    · obtain ⟨id, rfl⟩ := htimer
      exact timer_posted env id hp hc
    · refine .of_silent ((admits_silent env).step ?_ ?_) ?_
      · exact fun port c req hreq hu => absurd ⟨port, c, req, hreq, hu⟩ hup
      · exact fun id he => absurd ⟨id, he⟩ htimer
      · cases hreq : requestOf env w e with
        | none =>
          unfold countedPid
          rw [hreq]
        | some r =>
          obtain ⟨port, c, req⟩ := r
          exact hnone port c req hreq fun hu => hup ⟨port, c, req, hreq, hu⟩

/-! ## The observer -/

/-- A state, and the players who have had a report counted since their last stats event. -/
def ledger (s : World × Finset Nat) : Ledger Nat where
  log := statsEvents s.1
  counter := counter s.1
  ahead := s.2

variable (env)

/-- The ledger with the report of an event. -/
def noted (e : Event) (s : World × Finset Nat) : Ledger Nat :=
  match countedPid env e s.1 with
  | some pid => (ledger s).bump pid
  | none => ledger s

/-- The stats events of an event. -/
def newEvents (e : Event) (w : World) : List (Nat × Nat) :=
  (statsEvents (step env e w)).drop (statsEvents w).length

def track (e : Event) (s : World × Finset Nat) : World × Finset Nat :=
  (step env e s.1, (noted env e s).ahead \ ((newEvents env e s.1).map Prod.fst).toFinset)

/-- **The condition.**  Whoever a batch is posted to has had a report counted since the last
stats event, and its counter fits into the event. -/
def Due (e : Event) (s : World × Finset Nat) : Prop :=
  ∀ pid ∈ addressed env e s.1, pid ∈ (noted env e s).ahead ∧ counters env e s.1 pid < 2 ^ 32

instance (e : Event) (s : World × Finset Nat) : Decidable (Due env e s) := by
  unfold Due
  infer_instance

theorem noted_log (e : Event) (s : World × Finset Nat) : (noted env e s).log = statsEvents s.1 := by
  unfold noted
  split <;> rfl

theorem noted_counter (e : Event) (s : World × Finset Nat) :
    (noted env e s).counter = counters env e s.1 := by
  unfold noted counters
  split <;> rfl

/-- **What one event makes of the ledger.** -/
theorem ledger_track {e : Event} {s : World × Finset Nat} (h : Posted env e s.1) :
    ∃ n, ledger (track env e s) = (noted env e s).issue ((addressed env e s.1).take n) := by
  obtain ⟨n, hlog, hcount⟩ := h
  refine ⟨n, ?_⟩
  have hnew : (newEvents env e s.1).map Prod.fst = (addressed env e s.1).take n := by
    unfold newEvents
    rw [hlog, List.drop_left, List.map_map]
    exact List.map_id _
  unfold ledger Ledger.issue track
  rw [noted_log, noted_counter, hnew, hlog, hcount]

/-! ## Every run -/

/-- **The invariant.** -/
structure Inv (s : World × Finset Nat) : Prop where
  sound : (ledger s).Sound
  indexed : s.1.lobby.registry.WellIndexed
  capped : Capacity.AllCapped s.1.lobby
  players : s.1.lobby.AllPlayers (· < 2 ^ 32)
  pids : ∀ c, (s.1.heap c).userPid < 2 ^ 32

variable {env}

/-- A batch is fired for a lobby of the registry. -/
theorem pids_of_fires {e : Event} {w : World} (hw : w.lobby.registry.WellIndexed) {port : Port}
    {g : Gathering} (h : fires env e w = some (port, g)) :
    ∃ gid g0, w.lobby.get gid = some g0 ∧ g.pids = g0.pids := by
  unfold fires at h
  split at h
  · next port' c req _ =>
    unfold completedBy at h
    split at h
    · obtain ⟨g', hcomp, he⟩ := Option.map_eq_some_iff.mp h
      cases he
      obtain ⟨g0, hs, rfl, -⟩ := Game.completing_eq_some hcomp
      exact ⟨_, g0, Game.get_of_senderGathering hw hs, Game.pids_reported g0 _⟩
    · cases h
  · next id _ =>
    unfold timedOut at h
    obtain ⟨t, -, h⟩ := Option.bind_eq_some_iff.mp h
    obtain ⟨g', hg', he⟩ := Option.map_eq_some_iff.mp h
    cases he
    exact ⟨_, _, (Option.filter_eq_some_iff.mp hg').1, rfl⟩
  · cases h

theorem nodup_addressed {e : Event} {w : World} (hw : w.lobby.registry.WellIndexed)
    (h : Capacity.AllCapped w.lobby) : (addressed env e w).Nodup := by
  unfold addressed
  cases hf : fires env e w with
  | none => exact .nil
  | some r =>
    obtain ⟨port, g⟩ := r
    obtain ⟨gid, g0, hg, hpids⟩ := pids_of_fires hw hf
    refine List.Nodup.sublist (recipients_sublist w port g) ?_
    rw [hpids]
    exact (h gid g0 hg).distinct

theorem Inv.noted {s : World × Finset Nat} (h : Inv s) (e : Event) :
    (Transactions.noted env e s).Sound := by
  unfold Transactions.noted
  split
  · exact h.sound.bump _
  · exact h.sound

theorem step_inv {e : Event} {s : World × Finset Nat} (hd : Due env e s) (h : Inv s) :
    Inv (track env e s) := by
  obtain ⟨op, hp, hop⟩ := step_lobby env e h.indexed
  refine ⟨?_, step_indexed env e h.indexed, ?_, ?_, ?_⟩
  · have hposted := step_posted env e h.indexed h.players fun pid hin => (hd pid hin).2
    obtain ⟨n, hn⟩ := ledger_track env hposted
    rw [hn]
    refine (h.noted e).issue ((nodup_addressed h.indexed h.capped).sublist (List.take_sublist n _)) ?_
    exact fun pid hin => (hd pid (List.mem_of_mem_take hin)).1
  · show Capacity.AllCapped (step env e s.1).lobby
    rw [hop]
    exact Capacity.allCapped_apply env h.indexed hp h.capped
  · show (step env e s.1).lobby.AllPlayers _
    rw [hop]
    exact allPlayers_apply env h.indexed hp h.players fun port c req _ _ => h.pids c
  · intro c
    rcases (step_aged env e h.indexed).pid c with he | hlt
    · show ((step env e s.1).heap c).userPid < _
      rw [he]
      exact h.pids c
    · exact hlt

variable (env) in
/-- **The ids strictly increase**: over every run, from a server without lobbies and with
nothing sent, whose batches are posted to players who are due for an event, the stats
events of each player carry increasing ids above 0 in every state. -/
theorem increasing_of_due (w : World) (hl : w.lobby = Lobby.empty) (ht : w.trace = [])
    (hp : ∀ c, (w.heap c).userPid < 2 ^ 32) (es : List Event)
    (hd : Guarded (track env) (Due env) es (w, ∅)) (n : Nat) :
    Increasing (runs (step env) (es.take n) w) := by
  have hnone : statsEvents w = [] := by
    unfold statsEvents
    rw [ht]
    rfl
  have hstart : Inv (w, ∅) := by
    refine ⟨⟨?_, ?_, ?_⟩, ?_, ?_, ?_, hp⟩
    · show (statsEvents w).Pairwise _
      rw [hnone]
      exact .nil
    · intro m hm
      change m ∈ statsEvents w at hm
      rw [hnone] at hm
      cases hm
    · intro k hk
      exact absurd hk (Finset.notMem_empty k)
    · show w.lobby.registry.WellIndexed
      rw [hl]
      exact GatheringRegistry.WellIndexed.empty
    · intro k g hg
      change w.lobby.get k = some g at hg
      rw [hl] at hg
      cases hg
    · show w.lobby.AllPlayers _
      rw [hl]
      exact Lobby.allPlayers_empty _
  have hend := runs_invariant (fun e s => step_inv) (es.take n) (w, ∅)
    (guarded_take (track env) (Due env) n hd) hstart
  have hsound := hend.sound
  intro pid
  have h := hsound.sentTo pid
  change (0 :: Ledger.sentTo pid (statsEvents (runs (track env) (es.take n) (w, ∅)).1)).Pairwise _ at h
  rw [@runs_fst _ _ (step env) _ (track env) fun _ _ => rfl] at h
  exact h

/-! ## A match of two players -/

def players : World :=
  Sample.world [Sample.connection .secure 1 10000, Sample.connection .secure 2 10001]

/-- A host and a guest in a locked lobby, and the host's report. -/
def hostReported : List Event :=
  [.packet .secure (Sample.remote 1) (Sample.data 1 60 4 []),
   .packet .secure (Sample.remote 2) (Sample.data 1 60 5 (wU32 10000)),
   .packet .secure (Sample.remote 1) (Sample.data 2 60 19 (wU32 10000)),
   .packet .secure (Sample.remote 1) (Sample.data 3 60 12 (wU32 10000))]

/-- The guest reports, too. -/
def bothReported : List Event :=
  hostReported ++ [.packet .secure (Sample.remote 2) (Sample.data 2 60 12 (wU32 10000))]

theorem pids_players (c : ConnId) : (players.heap c).userPid < 2 ^ 32 := by
  show (([Sample.connection .secure 1 10000, Sample.connection .secure 2 10001] : List _).getD c
    default).userPid < 2 ^ 32
  cases c with
  | zero => decide
  | succ c =>
    cases c with
    | zero => decide
    | succ c => exact Nat.two_pow_pos 32

theorem increasing_bothReported :
    statsEvents (runs (step Sample.env) bothReported players) = [(10000, 1), (10001, 1)] ∧
      ∀ n, Increasing (runs (step Sample.env) (bothReported.take n) players) :=
  ⟨by decide +kernel, increasing_of_due Sample.env players rfl rfl pids_players bothReported
    (by decide +kernel)⟩

/-- The guest does not, and the timer of the batch runs out. -/
def timerFired : List Event := hostReported ++ [.timer 0]

/-- The guest's event carries 0. -/
theorem not_increasing_timerFired :
    statsEvents (runs (step Sample.env) timerFired players) = [(10000, 1), (10001, 0)] ∧
      ¬ Increasing (runs (step Sample.env) timerFired players) := by
  have hevents : statsEvents (runs (step Sample.env) timerFired players) =
      [(10000, 1), (10001, 0)] := by
    decide +kernel
  refine ⟨hevents, fun h => ?_⟩
  have hguest := h 10001
  rw [hevents] at hguest
  exact absurd hguest (by decide)

end Transactions
end Ghostbusters
