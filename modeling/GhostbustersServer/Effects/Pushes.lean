import GhostbustersServer.Effects.Announce

/-!
# The pushes of a join, a leave and a destruction

The requests that a handler pushes, as a list read off the state it starts in, and
what comes of them if all of them can be encoded.

    welcome_run, broadcast_run     the handlers push these lists
    sendAll_sends                  a list that goes out is sent, request by request
    sendAll_tells                  and tells what is in it
-/

namespace Ghostbusters

open Py Act PRUDPServer

/-! ## What is told -/

/-- The notices that went out between two states, in order. -/
def Tells (w w' : World) (notices : List ((ConnId × Nat) × Change Nat)) : Prop :=
  ∃ new, w'.trace = w.trace ++ new ∧ new.filterMap Notification.noticeOf = notices

theorem Tells.of_unannounced {w w' : World} (h : Unannounced w w') : Tells w w' [] := by
  obtain ⟨new, hnew, hall⟩ := h
  exact ⟨new, hnew, List.filterMap_eq_nil_iff.mpr hall⟩

theorem Tells.trans {a b c : World} {ms ns : List ((ConnId × Nat) × Change Nat)}
    (h1 : Tells a b ms) (h2 : Tells b c ns) : Tells a c (ms ++ ns) := by
  obtain ⟨n1, e1, rfl⟩ := h1
  obtain ⟨n2, e2, rfl⟩ := h2
  exact ⟨n1 ++ n2, by rw [e2, e1, List.append_assoc], List.filterMap_append⟩

theorem Tells.drop {w w' : World} {ms : List ((ConnId × Nat) × Change Nat)} (h : Tells w w' ms) :
    (w'.trace.drop w.trace.length).filterMap Notification.noticeOf = ms := by
  obtain ⟨new, hnew, hms⟩ := h
  rw [hnew, List.drop_left, hms]

/-! ## What is sent -/

/-- A request that went out. -/
def sentRequest : TraceEntry → Option (Port × ConnId × Request)
  | .sent port c (.request r) => some (port, c, r)
  | _ => none

theorem sentRequest_packet {e : TraceEntry} (h : e.IsPacket) : sentRequest e = none := by
  cases e <;> first | rfl | exact h.elim

/-- The requests that went out between two states, in order. -/
def Sends (w w' : World) (requests : List (Port × ConnId × Request)) : Prop :=
  ∃ new, w'.trace = w.trace ++ new ∧ new.filterMap sentRequest = requests

theorem Sends.of_grows {w w' : World} (h : LogGrows (fun e => sentRequest e = none) w w') :
    Sends w w' [] := by
  obtain ⟨new, hnew, hall⟩ := h
  exact ⟨new, hnew, List.filterMap_eq_nil_iff.mpr hall⟩

theorem Sends.trans {a b c : World} {rs ss : List (Port × ConnId × Request)} (h1 : Sends a b rs)
    (h2 : Sends b c ss) : Sends a c (rs ++ ss) := by
  obtain ⟨n1, e1, rfl⟩ := h1
  obtain ⟨n2, e2, rfl⟩ := h2
  exact ⟨n1 ++ n2, by rw [e2, e1, List.append_assoc], List.filterMap_append⟩

theorem Sends.unique {w w' : World} {rs ss : List (Port × ConnId × Request)} (h1 : Sends w w' rs)
    (h2 : Sends w w' ss) : rs = ss := by
  obtain ⟨n1, e1, rfl⟩ := h1
  obtain ⟨n2, e2, rfl⟩ := h2
  rw [List.append_cancel_left (e1.symm.trans e2)]

def noticeOfRequest (r : Port × ConnId × Request) : Option ((ConnId × Nat) × Change Nat) :=
  Notification.noticeIn r.2.1 r.2.2.proto r.2.2.method r.2.2.params

theorem noticeOf_eq (e : TraceEntry) :
    Notification.noticeOf e = (sentRequest e).bind noticeOfRequest := by
  cases e with
  | sent port c msg => cases msg <;> rfl
  | _ => rfl

/-- What is told is what is in the requests that went out. -/
theorem Sends.tells {w w' : World} {rs : List (Port × ConnId × Request)} (h : Sends w w' rs) :
    Tells w w' (rs.filterMap noticeOfRequest) := by
  obtain ⟨new, hnew, rfl⟩ := h
  refine ⟨new, hnew, ?_⟩
  rw [List.filterMap_filterMap]
  exact congrArg (fun f => new.filterMap f) (funext noticeOf_eq)

/-! ## A push -/

/-- A request to push to a connection. -/
structure Push where
  conn : ConnId
  proto : Nat
  method : Nat
  params : Bytes
  deriving DecidableEq, Repr

namespace Push

def request (p : Push) (callId : Nat) : Request :=
  { proto := p.proto, method := p.method, callId, params := p.params }

def notice (p : Push) : Option ((ConnId × Nat) × Change Nat) :=
  Notification.noticeIn p.conn p.proto p.method p.params

/-- Pushes of a port, under the call ids they get. -/
def numbered (port : Port) (callId : Nat) : List Push → List (Port × ConnId × Request)
  | [] => []
  | p :: ps => (port, p.conn, p.request callId) :: numbered port (callId + 1) ps

theorem numbered_notices (port : Port) (callId : Nat) (ps : List Push) :
    (numbered port callId ps).filterMap noticeOfRequest = ps.filterMap Push.notice := by
  induction ps generalizing callId with
  | nil => rfl
  | cons p ps ih =>
    unfold numbered
    rw [List.filterMap_cons, List.filterMap_cons, ih]
    rfl

/-- A notification event. -/
def event (c : ConnId) (params : Bytes) : Push :=
  { conn := c, proto := Notification.proto, method := Notification.methodProcessEvent, params }

theorem notice_event (c : ConnId) (source type param1 param2 : Nat) (text : Str)
    (ht : type < 2 ^ 32) (h1 : param1 < 2 ^ 32) (h2 : param2 < 2 ^ 32) :
    (event c (Notification.buildNotificationEvent source type param1 param2 text)).notice =
      (if type = Notification.eventParticipation then some (param2, Change.insert param1)
      else if type = Notification.eventEndParticipation then some (param2, .erase param1)
      else none).map fun x => ((c, x.1), x.2) := by
  show Notification.noticeIn c _ Notification.methodProcessEvent _ = _
  rw [← Notification.changeOf_event source type param1 param2 text ht h1 h2]
  exact Notification.noticeIn_event c _

end Push

variable (env : Env)

def Push.send (port : Port) (p : Push) : Srv Unit :=
  RMCDispatcher.sendRequest env port p.conn p.proto p.method p.params

/-- The packet that carries a message. -/
def dataPacket (conn : Connection) (body : Bytes) : PRUDPPacket :=
  { basePacket conn .data { reliable := true, needAck := true, hasSize := true } with
    sessionId := conn.serverSessionId
    packetId := conn.outgoingReliableSeq
    payload := Payload.wrap env body (conn.localPort == .secure) }

/-- The request can be encoded, and the codec takes its packet. -/
def Goes (conn : Connection) (r : Request) : Bool :=
  match Rmc.encode (.request r) with
  | .ok body => env.packetEncodes (dataPacket env conn body)
  | .error _ => false

/-- All of a list of pushes can be encoded, under the call ids and packet ids they get. -/
def AllGo (heap : ConnId → Connection) (callId : Nat) : List Push → Bool
  | [] => true
  | p :: ps =>
    Goes env (heap p.conn) (p.request callId) &&
      AllGo (Function.update heap p.conn
        { heap p.conn with outgoingReliableSeq := (heap p.conn).outgoingReliableSeq + 1 })
        (callId + 1) ps

theorem goes_congr {conn conn' : Connection} (h : conn.session = conn'.session) (r : Request) :
    Goes env conn r = Goes env conn' r := by
  have hpacket : ∀ body, dataPacket env conn body = dataPacket env conn' body := fun body =>
    (congrArg (fun k => dataPacket env k body) h :)
  unfold Goes
  simp only [hpacket]

theorem allGo_congr {heap heap' : ConnId → Connection} {callId : Nat}
    (h : ∀ k, (heap k).session = (heap' k).session) (ps : List Push) :
    AllGo env heap callId ps = AllGo env heap' callId ps := by
  induction ps generalizing heap heap' callId with
  | nil => rfl
  | cons p ps ih =>
    unfold AllGo
    rw [goes_congr env (h p.conn), ih]
    intro k
    simp only [Function.update_apply]
    split
    · have hseq : (heap p.conn).outgoingReliableSeq = (heap' p.conn).outgoingReliableSeq :=
        (congrArg Connection.outgoingReliableSeq (h p.conn) :)
      rw [hseq]
      exact congrArg (fun conn : Connection =>
        { conn with outgoingReliableSeq := (heap' p.conn).outgoingReliableSeq + 1 }) (h p.conn)
    · exact h k

/-- The packet id is used up before the packet is encoded. -/
theorem sendMessage_run (c : ConnId) {msg : Message} {body : Bytes} (w : World)
    (hb : Rmc.encode msg = .ok body) :
    (RMCDispatcher.sendMessage env c msg).run w =
      let pkt := dataPacket env (w.heap c) body
      let conn := { w.heap c with outgoingReliableSeq := (w.heap c).outgoingReliableSeq + 1 }
      if env.packetEncodes pkt then (.ok (), (w.withConn c conn).logged (.sendto conn.remote pkt))
      else (.error .encodeError, w.withConn c conn) := by
  let conn := { w.heap c with outgoingReliableSeq := (w.heap c).outgoingReliableSeq + 1 }
  unfold RMCDispatcher.sendMessage PRUDPServer.sendReliableData PRUDPServer.sendPacket Srv.conn
  rw [hb]
  simp only [run_bind, run_get, run_pure, run_ofExcept]
  show (if env.packetEncodes (dataPacket env (w.heap c) body) then
    Srv.log (.sendto ((w.withConn c conn).heap c).remote _) else Act.raise .encodeError).run _ = _
  rw [World.heap_withConn, if_pos rfl]
  split <;> rfl

/-- **One push that goes out.** -/
theorem send_goes (port : Port) (p : Push) (w : World)
    (h : Goes env (w.heap p.conn) (p.request (w.serverCallId port)) = true) :
    ∃ w', (p.send env port).run w = (.ok (), w') ∧
      w'.heap = Function.update w.heap p.conn { w.heap p.conn with
        outgoingReliableSeq := (w.heap p.conn).outgoingReliableSeq + 1 } ∧
      w'.serverCallId port = w.serverCallId port + 1 ∧
      Sends w w' [(port, p.conn, p.request (w.serverCallId port))] := by
  unfold Goes at h
  cases hb : Rmc.encode (.request (p.request (w.serverCallId port))) with
  | error e =>
    rw [hb] at h
    cases h
  | ok body =>
    rw [hb] at h
    let r := p.request (w.serverCallId port)
    let w1 := { w with
      serverCallId := Function.update w.serverCallId port (w.serverCallId port + 1) }
    let conn := { w.heap p.conn with
      outgoingReliableSeq := (w.heap p.conn).outgoingReliableSeq + 1 }
    let w2 := (w1.withConn p.conn conn).logged
      (.sendto conn.remote (dataPacket env (w.heap p.conn) body))
    have hmsg : (RMCDispatcher.sendMessage env p.conn (.request r)).run w1 = (.ok (), w2) := by
      rw [sendMessage_run env p.conn w1 hb]
      exact if_pos h
    refine ⟨w2.logged (.sent port p.conn (.request r)), ?_, rfl, ?_, ?_⟩
    · show (RMCDispatcher.send env port p.conn (.request r)).run w1 = _
      unfold RMCDispatcher.send
      rw [run_attempt_bind, hmsg]
      rfl
    · exact Function.update_self _ _ _
    · refine ⟨[.sendto conn.remote (dataPacket env (w.heap p.conn) body),
        .sent port p.conn (.request r)], ?_, rfl⟩
      show (w.trace ++ [_]) ++ [_] = _
      rw [List.append_assoc]
      rfl

/-- **One push that does not.** -/
theorem send_fails (port : Port) (p : Push) (w : World)
    (h : Goes env (w.heap p.conn) (p.request (w.serverCallId port)) = false) :
    ∃ e w', (p.send env port).run w = (.error e, w') := by
  let r := p.request (w.serverCallId port)
  let w1 := { w with
    serverCallId := Function.update w.serverCallId port (w.serverCallId port + 1) }
  have hmsg : ∃ e w2, (RMCDispatcher.sendMessage env p.conn (.request r)).run w1 = (.error e, w2) := by
    unfold Goes at h
    cases hb : Rmc.encode (.request r) with
    | error e =>
      refine ⟨e, w1, ?_⟩
      unfold RMCDispatcher.sendMessage
      rw [hb]
      rfl
    | ok body =>
      rw [show Rmc.encode (.request (p.request (w.serverCallId port))) = .ok body from hb] at h
      have hpacket : ¬ env.packetEncodes (dataPacket env (w1.heap p.conn) body) = true := by
        rw [show env.packetEncodes (dataPacket env (w1.heap p.conn) body) = false from h]
        exact Bool.false_ne_true
      exact ⟨_, _, (sendMessage_run env p.conn w1 hb).trans (if_neg hpacket)⟩
  obtain ⟨e, w2, hmsg⟩ := hmsg
  refine ⟨e, w2.logged (.sendFailed port p.conn (.request r)), ?_⟩
  show (RMCDispatcher.send env port p.conn (.request r)).run w1 = _
  unfold RMCDispatcher.send
  rw [run_attempt_bind, hmsg]
  rfl

/-- **A list of pushes that goes out.** -/
theorem sendAll_sends (port : Port) (ps : List Push) (w : World)
    (h : AllGo env w.heap (w.serverCallId port) ps = true) :
    ∃ w', (Act.forEach ps (Push.send env port)).run w = (.ok (), w') ∧
      Sends w w' (Push.numbered port (w.serverCallId port) ps) := by
  induction ps generalizing w with
  | nil => exact ⟨w, rfl, .of_grows (.of_same rfl)⟩
  | cons p ps ih =>
    unfold AllGo at h
    rw [Bool.and_eq_true] at h
    obtain ⟨w1, hr1, hheap, hcall, hs1⟩ := send_goes env port p w h.1
    have h2 := h.2
    rw [← hheap, ← hcall] at h2
    obtain ⟨w2, hr2, hs2⟩ := ih w1 h2
    refine ⟨w2, ?_, ?_⟩
    · show (p.send env port >>= fun _ => Act.forEach ps (Push.send env port)).run w = _
      rw [run_bind_ok hr1, hr2]
    · rw [hcall] at hs2
      exact hs1.trans hs2

theorem sendAll_tells (port : Port) (ps : List Push) (w : World)
    (h : AllGo env w.heap (w.serverCallId port) ps = true) :
    ∃ w', (Act.forEach ps (Push.send env port)).run w = (.ok (), w') ∧
      Tells w w' (ps.filterMap Push.notice) := by
  obtain ⟨w', hr, hs⟩ := sendAll_sends env port ps w h
  have ht := hs.tells
  rw [Push.numbered_notices] at ht
  exact ⟨w', hr, ht⟩

/-- **A list of pushes that does not.** -/
theorem sendAll_fails (port : Port) (ps : List Push) (w : World)
    (h : AllGo env w.heap (w.serverCallId port) ps = false) :
    ∃ e w', (Act.forEach ps (Push.send env port)).run w = (.error e, w') := by
  induction ps generalizing w with
  | nil => cases h
  | cons p ps ih =>
    show ∃ e w', (p.send env port >>= fun _ => Act.forEach ps (Push.send env port)).run w =
      (.error e, w')
    unfold AllGo at h
    cases hp : Goes env (w.heap p.conn) (p.request (w.serverCallId port)) with
    | false =>
      obtain ⟨e, w1, hr⟩ := send_fails env port p w hp
      exact ⟨e, w1, run_bind_error hr _⟩
    | true =>
      obtain ⟨w1, hr, hheap, hcall, -⟩ := send_goes env port p w hp
      rw [hp, Bool.true_and, ← hheap, ← hcall] at h
      rw [run_bind_ok hr]
      exact ih w1 h

/-! ## What a push reads -/

/-- What the recipients and the texts of pushes are read from. -/
structure SameView (w w' : World) : Prop where
  connections : w'.connections = w.connections
  stationUrls : ∀ c, (w'.heap c).stationUrls = (w.heap c).stationUrls

instance : IsPreorder World SameView where
  refl := fun _ => ⟨rfl, fun _ => rfl⟩
  trans := fun _ _ _ h1 h2 =>
    ⟨h2.connections.trans h1.connections, fun c => (h2.stationUrls c).trans (h1.stationUrls c)⟩

theorem Received.sameView {w w' : World} (h : Received w w') : SameView w w' :=
  ⟨h.connections, h.stationUrls⟩

theorem send_sameView (port : Port) (p : Push) : Within SameView (p.send env port) := by
  refine Within.bind Within.get fun w => Within.bind (Within.modify ?_) fun _ => ?_
  · exact fun _ => ⟨rfl, fun _ => rfl⟩
  refine Within.bind (Within.attempt ?_) fun r => ?_
  · exact (sendMessage_acked env p.conn _).mono fun _ _ h => ⟨h.connections, h.stationUrls⟩
  · have hlog : ∀ e, Within SameView (Srv.log e) := fun _ _ => ⟨rfl, fun _ => rfl⟩
    cases r with
    | ok u => exact hlog _
    | error e => exact Within.bind (hlog _) fun _ => Within.raise _

theorem sendAll_sameView (port : Port) (ps : List Push) :
    Within SameView (Act.forEach ps (Push.send env port)) :=
  Within.forEach ps fun p _ => send_sameView env port p

namespace Notification

variable {w w' : World} (h : SameView w w')
include h

theorem reachableUrlFor_congr (subject : Participant) (remote : Remote) :
    reachableUrlFor w' subject remote = reachableUrlFor w subject remote := by
  have hurls : stationUrls w' subject = stationUrls w subject := by
    unfold stationUrls
    split
    · exact h.stationUrls _
    · rfl
  unfold reachableUrlFor
  rw [hurls]

theorem eventText_congr (type : Nat) (subject : Option Participant) (recipient : Participant) :
    eventText w' type subject recipient = eventText w type subject recipient := by
  unfold eventText
  split
  · rw [reachableUrlFor_congr h]
  · rfl

end Notification

/-! ## The lists -/

/-- The pushes of `broadcast`. -/
def broadcastPushes (w : World) (port : Port) (recipients : List Participant)
    (subjectPid type gatheringId : Nat) : List Push :=
  let subject := recipients.find? fun p => p.pid == subjectPid
  recipients.filterMap fun p =>
    if p.pid = subjectPid then none
    else ((w.connections port).get? p.remote).map fun c =>
      .event c (Notification.buildNotificationEvent subjectPid type subjectPid gatheringId
        (Notification.eventText w type subject p))

/-- The pushes of `push_participants_to_joiner`. -/
def backfillPushes (w : World) (port : Port) (g : Gathering) (joinerPid : Nat) : List Push :=
  match g.participants.find? fun p => p.pid == joinerPid with
  | none => []
  | some joiner =>
    match (w.connections port).get? joiner.remote with
    | none => []
    | some c => g.participants.map fun p =>
      .event c (Notification.buildNotificationEvent p.pid Notification.eventParticipation p.pid g.id
        (Notification.reachableUrlFor w p joiner.remote))

def probePushes (c : ConnId) (urls : List Str) : List Push :=
  urls.map fun url => ⟨c, NatTraversal.proto, NatTraversal.methodInitiateProbe, wQstring url⟩

/-- The pushes of a join, with the joiner in `g`. -/
def welcomePushes (w : World) (port : Port) (conn : Connection) (g : Gathering) : List Push :=
  (match g.hostConn with
    | some host => probePushes host conn.stationUrls
    | none => []) ++
  broadcastPushes w port g.participants conn.userPid Notification.eventParticipation g.id ++
  backfillPushes w port g conn.userPid

theorem broadcast_run {w w' : World} (h : SameView w w') (port : Port)
    (recipients : List Participant) (subjectPid type gid : Nat) :
    (Notification.broadcast env port recipients subjectPid type gid).run w' =
      (Act.forEach (broadcastPushes w port recipients subjectPid type gid)
        (Push.send env port)).run w' := by
  unfold Notification.broadcast broadcastPushes
  refine run_forEach_filterMap (I := SameView w) _ ?_ ?_ recipients h
  · intro p s hs
    by_cases hp : p.pid = subjectPid
    · simp only [if_pos hp]
      rfl
    · simp only [if_neg hp]
      unfold Notification.pushTo
      rw [run_get_bind, hs.connections]
      cases (w.connections port).get? p.remote with
      | none => rfl
      | some c =>
        simp only [Option.map_some, Notification.eventText_congr hs]
        rfl
  · exact fun p s hs => trans_of SameView hs (send_sameView env port p s)

theorem backfill_run {w w' : World} (h : SameView w w') (port : Port) (g : Gathering)
    (joinerPid : Nat) :
    (Notification.pushParticipantsToJoiner env port g joinerPid).run w' =
      (Act.forEach (backfillPushes w port g joinerPid) (Push.send env port)).run w' := by
  unfold Notification.pushParticipantsToJoiner backfillPushes
  cases g.participants.find? fun p => p.pid == joinerPid with
  | none => rfl
  | some joiner =>
    simp only
    rw [run_get_bind, h.connections]
    cases (w.connections port).get? joiner.remote with
    | none => rfl
    | some c =>
      simp only
      rw [← List.filterMap_eq_map]
      refine run_forEach_filterMap (I := SameView w) _ ?_ ?_ g.participants h
      · intro p s hs
        rw [run_get_bind, Notification.reachableUrlFor_congr hs]
        rfl
      · exact fun p s hs => trans_of SameView hs (send_sameView env port p s)

theorem probes_run (port : Port) (c : ConnId) (urls : List Str) (w : World) :
    (NatTraversal.pushProbes env port c urls).run w =
      (Act.forEach (probePushes c urls) (Push.send env port)).run w := by
  unfold NatTraversal.pushProbes probePushes
  rw [← List.filterMap_eq_map]
  refine run_forEach_filterMap (I := fun _ => True) _ ?_ ?_ urls trivial
  · intro url s _
    rfl
  · exact fun _ _ _ => trivial

/-! ## What the lists tell -/

theorem probePushes_notices (c : ConnId) (urls : List Str) :
    (probePushes c urls).filterMap Push.notice = [] := by
  rw [List.filterMap_eq_nil_iff]
  intro p hp
  obtain ⟨url, -, rfl⟩ := List.mem_map.mp hp
  exact Notification.noticeIn_of_proto (show NatTraversal.proto ≠ Notification.proto by decide) c _ _

/-- Everyone but the subject is told, on the connection its remote leads to. -/
theorem mem_broadcast_notices {w : World} {port : Port} {recipients : List Participant}
    {subjectPid type gid : Nat} {change : Change Nat}
    (h : ∀ c text, (Push.event c (Notification.buildNotificationEvent subjectPid type subjectPid gid
      text)).notice = some ((c, gid), change)) (m : (ConnId × Nat) × Change Nat) :
    m ∈ (broadcastPushes w port recipients subjectPid type gid).filterMap Push.notice ↔
      ∃ p ∈ recipients, p.pid ≠ subjectPid ∧ ∃ c, (w.connections port).get? p.remote = some c ∧
        m = ((c, gid), change) := by
  unfold broadcastPushes
  rw [List.filterMap_filterMap, List.mem_filterMap]
  refine exists_congr fun p => and_congr_right fun _ => ?_
  by_cases hp : p.pid = subjectPid
  · simp [hp]
  · rw [if_neg hp]
    cases (w.connections port).get? p.remote with
    | none => simp
    | some c =>
      rw [Option.map_some, Option.bind_some, h]
      simp [hp, eq_comm]

theorem insert_notice {subjectPid gid : Nat} (hp : subjectPid < 2 ^ 32) (hg : gid < 2 ^ 32)
    (source : Nat) (c : ConnId) (text : Str) :
    (Push.event c (Notification.buildNotificationEvent source Notification.eventParticipation
      subjectPid gid text)).notice = some ((c, gid), .insert subjectPid) := by
  rw [Push.notice_event c source _ subjectPid gid text (by decide) hp hg, if_pos rfl]
  rfl

theorem erase_notice {subjectPid gid : Nat} (hp : subjectPid < 2 ^ 32) (hg : gid < 2 ^ 32)
    (source : Nat) (c : ConnId) (text : Str) :
    (Push.event c (Notification.buildNotificationEvent source Notification.eventEndParticipation
      subjectPid gid text)).notice = some ((c, gid), .erase subjectPid) := by
  rw [Push.notice_event c source _ subjectPid gid text (by decide) hp hg, if_neg (by decide),
    if_pos rfl]
  rfl

/-- The joiner is told of everyone. -/
theorem mem_backfill_notices {w : World} {port : Port} {g : Gathering} {joinerPid : Nat}
    {joiner : Participant} {c : ConnId}
    (hj : (g.participants.find? fun p => p.pid == joinerPid) = some joiner)
    (hc : (w.connections port).get? joiner.remote = some c) (hg : g.id < 2 ^ 32)
    (hpids : ∀ p ∈ g.participants, p.pid < 2 ^ 32) (m : (ConnId × Nat) × Change Nat) :
    m ∈ (backfillPushes w port g joinerPid).filterMap Push.notice ↔
      ∃ p ∈ g.participants, m = ((c, g.id), .insert p.pid) := by
  unfold backfillPushes
  rw [hj]
  simp only [hc]
  rw [List.filterMap_map, List.mem_filterMap]
  refine exists_congr fun p => and_congr_right fun hp => ?_
  rw [Function.comp_apply, insert_notice (hpids p hp) hg]
  simp [eq_comm]

/-! ## The handlers -/

/-- The lobby `g` with the player of `c` in it. -/
def World.joined (w : World) (c : ConnId) (g : Gathering) : Gathering :=
  let conn := w.heap c
  { g with
    participants := GatheringRegistry.joined g.participants conn.userPid (pidName conn.userPid)
      conn.remote (some c) }

/-- A lobby that was not over the hard cap. -/
theorem length_joined_lt {w : World} {c : ConnId} {g : Gathering}
    (h : g.participants.length ≤ maxParticipantsPerGathering) :
    (w.joined c g).participants.length < 2 ^ 32 := by
  have hpids := GatheringRegistry.pids_joined g.participants (w.heap c).userPid
    (pidName (w.heap c).userPid) (w.heap c).remote c
  have hlen := congrArg List.length hpids
  unfold maxParticipantsPerGathering at h
  rw [List.length_map] at hlen
  show (GatheringRegistry.joined _ _ _ _ _).length < _
  rw [hlen]
  split
  · rw [List.length_map]
    omega
  · rw [List.length_append, List.length_map, List.length_singleton]
    omega

/-- The lobby `g` without the player of `c`. -/
def World.left (w : World) (c : ConnId) (g : Gathering) : Gathering :=
  { g with participants := g.participants.filter fun p => p.pid != (w.heap c).userPid }

def joinPushes (w : World) (port : Port) (c : ConnId) (g : Gathering) : List Push :=
  welcomePushes w port (w.heap c) (w.joined c g)

/-- The pushes of `push_leave`, with `g` as it is by then. -/
def leavePushes (w : World) (port : Port) (c : ConnId) (g : Gathering) : List Push :=
  broadcastPushes w port g.participants (w.heap c).userPid Notification.eventEndParticipation g.id

/-- An id that a request names fits its field. -/
theorem leadingGid_lt (req : Request) : leadingGid req < 2 ^ 32 := by
  unfold leadingGid
  split
  · have hlt := ofLE_lt (req.params.take 4)
    have hlen : (req.params.take 4).length ≤ 4 := List.length_take_le 4 req.params
    exact hlt.trans_le (Nat.pow_le_pow_right (by omega) hlen)
  · omega

theorem mem_pids_joined (w : World) (c : ConnId) (g : Gathering) (x : Nat) :
    x ∈ (w.joined c g).pids ↔ x ∈ g.pids ∨ x = (w.heap c).userPid := by
  have h := GatheringRegistry.pids_joined g.participants (w.heap c).userPid
    (pidName (w.heap c).userPid) (w.heap c).remote c
  show x ∈ ((w.joined c g).participants.map fun p => p.pid) ↔
    x ∈ (g.participants.map fun p => p.pid) ∨ _
  unfold World.joined
  rw [h]
  split
  · next hin =>
    refine ⟨.inl, ?_⟩
    rintro (hx | rfl)
    · exact hx
    · exact hin
  · rw [List.mem_append, List.mem_singleton]

theorem mem_pids_left (w : World) (c : ConnId) (g : Gathering) (x : Nat) :
    x ∈ (w.left c g).pids ↔ x ∈ g.pids ∧ x ≠ (w.heap c).userPid := by
  constructor
  · intro hx
    obtain ⟨q, hq, rfl⟩ := List.mem_map.mp hx
    obtain ⟨hq, hne⟩ := List.mem_filter.mp hq
    exact ⟨List.mem_map.mpr ⟨q, hq, rfl⟩, by simpa using hne⟩
  · rintro ⟨hx, hne⟩
    obtain ⟨q, hq, rfl⟩ := List.mem_map.mp hx
    exact List.mem_map.mpr ⟨q, List.mem_filter.mpr ⟨hq, by simpa using hne⟩, rfl⟩

/-- **What a join tells**: the others of the joiner, and the joiner of everyone. -/
theorem mem_join_notices {w : World} {port : Port} {c : ConnId} {g : Gathering}
    (hg : g.id < 2 ^ 32) (hpid : (w.heap c).userPid < 2 ^ 32)
    (hpids : ∀ p ∈ (w.joined c g).participants, p.pid < 2 ^ 32)
    (hhome : ∀ p ∈ (w.joined c g).participants, p.pid = (w.heap c).userPid →
      p.remote = (w.heap c).remote)
    (hc : (w.connections port).get? (w.heap c).remote = some c)
    (m : (ConnId × Nat) × Change Nat) :
    m ∈ (joinPushes w port c g).filterMap Push.notice ↔
      (∃ p ∈ (w.joined c g).participants, p.pid ≠ (w.heap c).userPid ∧
        ∃ k, (w.connections port).get? p.remote = some k ∧
          m = ((k, g.id), .insert (w.heap c).userPid)) ∨
      ∃ p ∈ (w.joined c g).participants, m = ((c, g.id), .insert p.pid) := by
  obtain ⟨joiner, hj⟩ : ∃ joiner, ((w.joined c g).participants.find? fun p =>
      p.pid == (w.heap c).userPid) = some joiner := by
    have hin := (mem_pids_joined w c g (w.heap c).userPid).mpr (.inr rfl)
    obtain ⟨p, hp, hpp⟩ := List.mem_map.mp hin
    rw [← Option.isSome_iff_exists, List.find?_isSome]
    exact ⟨p, hp, by simpa using hpp⟩
  have hjoiner : joiner.remote = (w.heap c).remote :=
    hhome joiner (List.mem_of_find?_eq_some hj) (by simpa using List.find?_some hj)
  have hprobes : ∀ host : Option ConnId, (match host with
      | some host => probePushes host (w.heap c).stationUrls
      | none => []).filterMap Push.notice = [] := by
    intro host
    cases host with
    | none => rfl
    | some host => exact probePushes_notices host _
  have hid : (w.joined c g).id < 2 ^ 32 := hg
  unfold joinPushes welcomePushes
  rw [List.filterMap_append, List.filterMap_append, hprobes, List.nil_append, List.mem_append,
    mem_broadcast_notices (insert_notice hpid hid (w.heap c).userPid),
    mem_backfill_notices hj (by rw [hjoiner]; exact hc) hid hpids]
  rfl

/-- **What a leave tells** those who stay. -/
theorem mem_leave_notices {w : World} {port : Port} {c : ConnId} {g : Gathering}
    (hg : g.id < 2 ^ 32) (hpid : (w.heap c).userPid < 2 ^ 32) (m : (ConnId × Nat) × Change Nat) :
    m ∈ (leavePushes w port c g).filterMap Push.notice ↔
      ∃ p ∈ g.participants, p.pid ≠ (w.heap c).userPid ∧
        ∃ k, (w.connections port).get? p.remote = some k ∧
          m = ((k, g.id), .erase (w.heap c).userPid) :=
  mem_broadcast_notices (erase_notice hpid hg (w.heap c).userPid) m

/-- The struct of a lobby whose numbers fit their fields can be rendered. -/
theorem renderStruct_ok (g : Gathering) (count : Nat) (hid : g.id < 2 ^ 32)
    (howner : g.ownerPid < 2 ^ 32) (hcount : count < 2 ^ 32) :
    ∃ bytes, g.renderStruct count = .ok bytes := by
  unfold Gathering.renderStruct
  rw [toBytes_word hid, toBytes_word howner, toBytes_word hcount]
  split
  · exact ⟨_, rfl⟩
  · dsimp only [bind, Except.bind]
    split
    · exact ⟨_, rfl⟩
    · split <;> exact ⟨_, rfl⟩

theorem joinReply_ok (urls : List Str) (g : Gathering) (joinerPid : Nat) (hid : g.id < 2 ^ 32)
    (howner : g.ownerPid < 2 ^ 32) (hcount : g.participants.length < 2 ^ 32) :
    ∃ body, Game.joinReply urls g joinerPid = .ok body := by
  obtain ⟨embed, he⟩ := renderStruct_ok g g.participants.length hid howner hcount
  unfold Game.joinReply Gathering.renderJoinEmbed
  rw [he]
  exact ⟨_, rfl⟩

theorem welcome_run {w w' : World} (h : SameView w w') (port : Port) (conn : Connection)
    (g : Gathering) (req : Request) {body : Bytes}
    (hbody : Game.joinReply (Game.hostUrls w' g) g conn.userPid = .ok body) :
    (Game.welcome env port conn g req).run w' =
      (Act.forEach (welcomePushes w port conn g) (Push.send env port) >>= fun _ =>
        (pure (Game.ok req body) : Srv Message)).run w' := by
  -- the events, from a state with the same view
  have hevents : ∀ w1, SameView w w1 → (do
      Notification.pushJoin env port g conn.userPid
      Notification.pushParticipantsToJoiner env port g conn.userPid
      return Game.ok req body : Srv Message).run w1 =
      (Act.forEach (broadcastPushes w port g.participants conn.userPid
          Notification.eventParticipation g.id ++ backfillPushes w port g conn.userPid)
        (Push.send env port) >>= fun _ => (pure (Game.ok req body) : Srv Message)).run w1 := by
    intro w1 h1
    have hb := broadcast_run env h1 port g.participants conn.userPid
      Notification.eventParticipation g.id
    have hv := sendAll_sameView env port (broadcastPushes w port g.participants conn.userPid
      Notification.eventParticipation g.id) w1
    unfold WithinAt at hv
    unfold Notification.pushJoin
    simp only [run_bind, run_forEach_append, hb]
    generalize (Act.forEach (broadcastPushes w port g.participants conn.userPid
      Notification.eventParticipation g.id) (Push.send env port)).run w1 = out at hv
    obtain ⟨r, w2⟩ := out
    cases r with
    | error e => rfl
    | ok u => simp only [backfill_run env (trans_of SameView h1 hv)]
  unfold Game.welcome welcomePushes
  rw [run_get_bind, hbody]
  cases g.hostConn with
  | none =>
    rw [List.nil_append]
    exact hevents w' h
  | some host =>
    have hv := sendAll_sameView env port (probePushes host conn.stationUrls) w'
    unfold WithinAt at hv
    rw [List.append_assoc]
    show (NatTraversal.pushProbes env port host conn.stationUrls >>= fun _ => _).run w' = _
    simp only [run_bind, run_forEach_append, probes_run]
    generalize (Act.forEach (probePushes host conn.stationUrls) (Push.send env port)).run w' =
      out at hv
    obtain ⟨r, w2⟩ := out
    cases r with
    | error e => rfl
    | ok u =>
      have he := hevents w2 (trans_of SameView h hv)
      simp only [run_bind, run_forEach_append] at he
      exact he

section
variable (port : Port) (ps : List Push) (w : World) {α : Type} {m : Srv α}
  (h : AllGo env w.heap (w.serverCallId port) ps = true) (hm : ∀ s, (m.after s).trace = s.trace)
include h hm

/-- Pushes that all go out, and then an answer. -/
theorem sendAll_then_sends : Sends w ((Act.forEach ps (Push.send env port) >>= fun _ => m).after w)
    (Push.numbered port (w.serverCallId port) ps) := by
  obtain ⟨w', hr, hs⟩ := sendAll_sends env port ps w h
  unfold after
  rw [run_bind_ok hr]
  have hend := hs.trans (.of_grows (.of_same (hm w')))
  rw [List.append_nil] at hend
  exact hend

theorem sendAll_then : Tells w ((Act.forEach ps (Push.send env port) >>= fun _ => m).after w)
    (ps.filterMap Push.notice) := by
  have ht := (sendAll_then_sends env port ps w h hm).tells
  rw [Push.numbered_notices] at ht
  exact ht

end

namespace Game

/-- **A join that is let in**: the pushes, and then the answer. -/
theorem joinGathering_run {w : World} {port : Port} {c : ConnId} {req : Request} {g : Gathering}
    (hadm : admitted w (w.heap c).userPid req = some g) (hg : w.lobby.get g.id = some g)
    (hid : g.id < 2 ^ 32) (howner : g.ownerPid < 2 ^ 32)
    (hcount : (w.joined c g).participants.length < 2 ^ 32) :
    ∃ body, joinReply (hostUrls w g) (w.joined c g) (w.heap c).userPid = .ok body ∧
      (joinGathering env port c req).run w = (Act.forEach (joinPushes w port c g)
        (Push.send env port) >>= fun _ => (pure (ok req body) : Srv Message)).run
          (joinedWorld w c g) := by
  have hjoined : ((joinedWorld w c g).lobby.get g.id).getD g = w.joined c g := by
    have hget := GatheringRegistry.get_addParticipant w.lobby.registry g.id (w.heap c).userPid
      (pidName (w.heap c).userPid) (w.heap c).remote (some c) g.id
    rw [if_pos rfl, show w.lobby.registry.get g.id = some g from hg] at hget
    show ((w.lobby.registry.addParticipant _ _ _ _ _).2.get g.id).getD g = _
    rw [hget]
    rfl
  obtain ⟨body, hbody⟩ := joinReply_ok (hostUrls (joinedWorld w c g) (w.joined c g)) (w.joined c g)
    (w.heap c).userPid hid howner hcount
  have hrun := joinGathering_admitted env w port c req g hadm
  rw [hjoined, welcome_run env (refl_of SameView (joinedWorld w c g)) port (w.heap c) (w.joined c g)
    req hbody] at hrun
  exact ⟨body, hbody, hrun⟩

/-- **A join whose pushes all go out.** -/
theorem joinGathering_sends {w : World} {port : Port} {c : ConnId} {req : Request} {g : Gathering}
    (hadm : admitted w (w.heap c).userPid req = some g) (hg : w.lobby.get g.id = some g)
    (hid : g.id < 2 ^ 32) (howner : g.ownerPid < 2 ^ 32)
    (hcount : (w.joined c g).participants.length < 2 ^ 32)
    (hgo : AllGo env w.heap (w.serverCallId port) (joinPushes w port c g) = true) :
    ∃ body, joinReply (hostUrls w g) (w.joined c g) (w.heap c).userPid = .ok body ∧
      ((joinGathering env port c req).run w).1 = .ok (ok req body) ∧
      Sends w ((joinGathering env port c req).after w)
        (Push.numbered port (w.serverCallId port) (joinPushes w port c g)) := by
  obtain ⟨body, hbody, hrun⟩ := @joinGathering_run env w port c req g hadm hg hid howner hcount
  obtain ⟨w1, hr, -⟩ := sendAll_sends env port (joinPushes w port c g) (joinedWorld w c g) hgo
  refine ⟨body, hbody, ?_, ?_⟩
  · rw [hrun, run_bind_ok hr]
    rfl
  · unfold after
    rw [hrun]
    exact sendAll_then_sends env port (joinPushes w port c g) (joinedWorld w c g) hgo fun _ => rfl

theorem joinGathering_tells {w : World} {port : Port} {c : ConnId} {req : Request} {g : Gathering}
    (hadm : admitted w (w.heap c).userPid req = some g) (hg : w.lobby.get g.id = some g)
    (hid : g.id < 2 ^ 32) (howner : g.ownerPid < 2 ^ 32)
    (hcount : (w.joined c g).participants.length < 2 ^ 32)
    (hgo : AllGo env w.heap (w.serverCallId port) (joinPushes w port c g) = true) :
    Tells w ((joinGathering env port c req).after w)
      ((joinPushes w port c g).filterMap Push.notice) := by
  obtain ⟨body, -, hrun⟩ := @joinGathering_run env w port c req g hadm hg hid howner hcount
  unfold after
  rw [hrun]
  exact sendAll_then env port (joinPushes w port c g) (joinedWorld w c g) hgo fun _ => rfl

/-- It is a success exactly when the pushes all go out. -/
theorem joinGathering_ok_iff {w : World} {port : Port} {c : ConnId} {req : Request} {g : Gathering}
    (hadm : admitted w (w.heap c).userPid req = some g) (hg : w.lobby.get g.id = some g)
    (hid : g.id < 2 ^ 32) (howner : g.ownerPid < 2 ^ 32)
    (hcount : (w.joined c g).participants.length < 2 ^ 32) :
    (∃ r, ((joinGathering env port c req).run w).1 = .ok (.ok r)) ↔
      AllGo env w.heap (w.serverCallId port) (joinPushes w port c g) = true := by
  obtain ⟨body, -, hrun⟩ := @joinGathering_run env w port c req g hadm hg hid howner hcount
  rw [hrun]
  cases hgo : AllGo env w.heap (w.serverCallId port) (joinPushes w port c g) with
  | true =>
    obtain ⟨w1, hr, -⟩ := sendAll_tells env port (joinPushes w port c g) (joinedWorld w c g) hgo
    rw [run_bind_ok hr]
    exact iff_of_true ⟨_, rfl⟩ rfl
  | false =>
    obtain ⟨e, w1, hr⟩ := sendAll_fails env port (joinPushes w port c g) (joinedWorld w c g) hgo
    rw [run_bind_error hr]
    refine iff_of_false ?_ Bool.false_ne_true
    rintro ⟨r, h⟩
    cases h

theorem leaveGathering_silent {w : World} (port : Port) {c : ConnId} {req : Request}
    (hn : ∀ g, w.lobby.get (leadingGid req) = some g → (w.heap c).userPid ∉ g.pids) :
    Unannounced w ((leaveGathering env port c req).after w) := by
  have hremoved : (w.lobby.registry.removeParticipant (leadingGid req) (w.heap c).userPid).1 =
      false := by
    unfold GatheringRegistry.removeParticipant
    cases hg : w.lobby.registry.byId.get? (leadingGid req) with
    | none => rfl
    | some g => simp only [g.participants_without (hn g hg), bne_self_eq_false]
  unfold after
  rw [leaveGathering_run, hremoved]
  exact LogGrows.of_same rfl

theorem leaveGathering_tells {w : World} {port : Port} {c : ConnId} {req : Request} {g : Gathering}
    (hg : w.lobby.get (leadingGid req) = some g) (hin : (w.heap c).userPid ∈ g.pids)
    (hgo : AllGo env w.heap (w.serverCallId port) (leavePushes w port c (w.left c g)) = true) :
    Tells w ((leaveGathering env port c req).after w)
      ((leavePushes w port c (w.left c g)).filterMap Push.notice) := by
  have hremoved : (w.lobby.registry.removeParticipant (leadingGid req) (w.heap c).userPid).1 =
      true := by
    obtain ⟨p, hp, hpid⟩ := List.mem_map.mp hin
    have hlt : (g.participants.filter fun p => p.pid != (w.heap c).userPid).length <
        g.participants.length := by
      apply List.length_filter_lt_length_iff_exists.mpr
      exact ⟨p, hp, by simp [hpid]⟩
    unfold GatheringRegistry.removeParticipant
    rw [show w.lobby.registry.byId.get? (leadingGid req) = some g from hg]
    simp only [bne_iff_ne]
    exact Nat.ne_of_lt hlt
  have hget : (w.lobby.registry.removeParticipant (leadingGid req) (w.heap c).userPid).2.get
      (leadingGid req) = some (w.left c g) := by
    rw [GatheringRegistry.get_removeParticipant, if_pos rfl,
      show w.lobby.registry.get (leadingGid req) = some g from hg]
    rfl
  let w' := w.withLobby ((LobbyOp.leave (leadingGid req) (w.heap c).userPid).apply w.lobby)
  have hv : SameView w w' := ⟨rfl, fun _ => rfl⟩
  have hb := broadcast_run env hv port (w.left c g).participants (w.heap c).userPid
    Notification.eventEndParticipation (w.left c g).id
  have hend := sendAll_then env port (leavePushes w port c (w.left c g)) w' hgo
    (m := (pure (ok req []) : Srv Message)) fun _ => rfl
  unfold after at hend ⊢
  rw [leaveGathering_run, hremoved, hget]
  simp only [if_pos]
  show Tells w ((Notification.pushLeave env port (w.left c g) (w.heap c).userPid >>= fun _ =>
    (pure (ok req []) : Srv Message)).run w').2 _
  unfold Notification.pushLeave
  rw [run_bind, hb]
  exact hend

end Game

theorem destroyGathering_silent {w : World} (port : Port) {c : ConnId} {req : Request}
    (hn : ∀ g, w.lobby.get (leadingGid req) = some g → (w.heap c).userPid ≠ g.ownerPid) :
    Unannounced w ((Matchmaking.destroyGathering env port c req).after w) ∧
      ((Matchmaking.destroyGathering env port c req).after w).lobby = w.lobby := by
  unfold Matchmaking.destroyGathering Srv.conn after
  simp only [run_bind, run_get, run_pure]
  cases hg : w.lobby.get (leadingGid req) with
  | none => exact ⟨refl_of Unannounced w, rfl⟩
  | some g =>
    simp only [if_neg (hn g hg)]
    exact ⟨refl_of Unannounced w, rfl⟩

theorem destroyGathering_tells {w : World} {port : Port} {c : ConnId} {req : Request}
    {g : Gathering} (hg : w.lobby.get (leadingGid req) = some g)
    (howner : (w.heap c).userPid = g.ownerPid)
    (hgo : AllGo env w.heap (w.serverCallId port) (leavePushes w port c g) = true) :
    Tells w ((Matchmaking.destroyGathering env port c req).after w)
        ((leavePushes w port c g).filterMap Push.notice) ∧
      ((Matchmaking.destroyGathering env port c req).after w).lobby =
        (LobbyOp.destroy (leadingGid req)).apply w.lobby := by
  obtain ⟨w1, hr, ht⟩ := sendAll_tells env port (leavePushes w port c g) w hgo
  have hb := broadcast_run env (refl_of SameView w) port g.participants (w.heap c).userPid
    Notification.eventEndParticipation g.id
  have hpush : (Notification.pushLeave env port g (w.heap c).userPid).run w = (.ok (), w1) :=
    hb.trans hr
  have hq := Notification.broadcast_quiet env port g.participants (w.heap c).userPid
    Notification.eventEndParticipation g.id w
  have hlobby : w1.lobby = w.lobby := by
    unfold WithinAt at hq
    change Quiet w ((Notification.pushLeave env port g (w.heap c).userPid).run w).2 at hq
    rw [hpush] at hq
    exact hq.lobby
  unfold Matchmaking.destroyGathering Srv.conn after
  simp only [run_bind, run_get, run_pure, hg, if_pos howner, hpush]
  refine ⟨?_, ?_⟩
  · have hend := ht.trans (.of_unannounced (.of_same (b := w1.withLobby
      ((LobbyOp.destroy (leadingGid req)).apply w1.lobby)) rfl))
    rw [List.append_nil] at hend
    exact hend
  · show (LobbyOp.destroy (leadingGid req)).apply w1.lobby = _
    rw [hlobby]

/-! ## From a packet on -/

theorem broadcastPushes_congr {w w' : World} (h : SameView w w') (port : Port)
    (recipients : List Participant) (subjectPid type gid : Nat) :
    broadcastPushes w' port recipients subjectPid type gid =
      broadcastPushes w port recipients subjectPid type gid := by
  unfold broadcastPushes
  rw [h.connections]
  simp only [Notification.eventText_congr h]

theorem backfillPushes_congr {w w' : World} (h : SameView w w') (port : Port) (g : Gathering)
    (joinerPid : Nat) :
    backfillPushes w' port g joinerPid = backfillPushes w port g joinerPid := by
  unfold backfillPushes
  rw [h.connections]
  simp only [Notification.reachableUrlFor_congr h]

section
variable {w w' : World} (h : Received w w') (port : Port) (c : ConnId) (g : Gathering)
include h

theorem joined_congr : w'.joined c g = w.joined c g := by
  unfold World.joined
  simp only [h.userPid, h.remote]

theorem left_congr : w'.left c g = w.left c g := by
  unfold World.left
  rw [h.userPid]

theorem joinPushes_congr : joinPushes w' port c g = joinPushes w port c g := by
  unfold joinPushes welcomePushes
  rw [joined_congr h, h.userPid, h.stationUrls, broadcastPushes_congr h.sameView,
    backfillPushes_congr h.sameView]

theorem leavePushes_congr : leavePushes w' port c g = leavePushes w port c g := by
  unfold leavePushes
  rw [h.userPid, broadcastPushes_congr h.sameView]

theorem allGo_received (ps : List Push) :
    AllGo env w'.heap (w'.serverCallId port) ps = AllGo env w.heap (w.serverCallId port) ps := by
  rw [show w'.serverCallId = w.serverCallId by rw [h.rest]]
  exact allGo_congr env h.session ps

end

theorem sentRequest_answer {m : Message} (h : m.IsAnswer) (port : Port) (c : ConnId) :
    sentRequest (.sent port c m) = none := by
  cases m with
  | request r => exact h.elim
  | ok r => rfl
  | error r => rfl

/-- An answer is no request. -/
theorem answer_unsent (port : Port) (c : ConnId) (msg : Message) (h : msg.IsAnswer) :
    Within (LogGrows fun e => sentRequest e = none) (RMCDispatcher.send env port c msg) := by
  have hlog : ∀ e : TraceEntry, sentRequest e = none →
      Within (LogGrows fun e => sentRequest e = none) (Srv.log e) := fun e he w =>
    ⟨[e], rfl, by simpa using he⟩
  refine Within.bind (Within.attempt ?_) fun r => ?_
  · exact (sendMessage_acked env c msg).mono fun _ _ h => h.packets.mono fun _ he => sentRequest_packet he
  · cases r with
    | ok u => exact hlog _ (sentRequest_answer h port c)
    | error e => exact Within.bind (hlog _ rfl) fun _ => Within.raise _

/-- What the handler of a request sends is what its event sends, but for the answer. -/
theorem step_sends {e : Event} {w : World} {port : Port} {c : ConnId} {req : Request}
    {h : Handler} (hreq : requestOf env w e = some (port, c, req))
    (hh : RMCDispatcher.handlerFor env req = some h) :
    ∃ body w1, Received w w1 ∧ ∀ rs, Sends (w1.logged (.onPayload port c body))
      ((h port c req).after (w1.logged (.onPayload port c body))) rs → Sends w (step env e w) rs := by
  obtain ⟨body, w1, hr, hafter⟩ := step_handled_of env (answer_unsent env port c) hreq hh
  refine ⟨body, w1, hr, fun rs hs => ?_⟩
  have hbefore : LogGrows (fun e => sentRequest e = none) w (w1.logged (.onPayload port c body)) := by
    exact LogGrows.trans (hr.packets.mono fun _ hx => sentRequest_packet hx)
      ⟨[_], rfl, by simp [sentRequest]⟩
  have hall := (Sends.of_grows hbefore).trans (hs.trans (.of_grows hafter))
  rw [List.nil_append, List.append_nil] at hall
  exact hall

/-- What the handler of a request tells is what its event tells. -/
theorem step_tells {e : Event} {w : World} {port : Port} {c : ConnId} {req : Request}
    {h : Handler} (hreq : requestOf env w e = some (port, c, req))
    (hh : RMCDispatcher.handlerFor env req = some h) :
    ∃ body w1, Received w w1 ∧
      (step env e w).lobby = ((h port c req).after (w1.logged (.onPayload port c body))).lobby ∧
      ∀ ns, Tells (w1.logged (.onPayload port c body))
        ((h port c req).after (w1.logged (.onPayload port c body))) ns →
          Tells w (step env e w) ns := by
  obtain ⟨body, w1, hr, hmute⟩ := step_handled env hreq hh
  refine ⟨body, w1, hr, hmute.lobby, ?_⟩
  intro ns ht
  have hbefore : Unannounced w (w1.logged (.onPayload port c body)) :=
    trans_of Unannounced (tolerant_unannounced.received hr)
      (tolerant_unannounced.logged w1 (e := .onPayload port c body) trivial)
  have hall := (Tells.of_unannounced hbefore).trans (ht.trans (.of_unannounced hmute.unannounced))
  rw [List.nil_append, List.append_nil] at hall
  exact hall

end Ghostbusters
