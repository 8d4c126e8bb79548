import GhostbustersServer.Guarantees.Sample

/-!
# A CONNECT that is sent again

The client sends its CONNECT again when no answer comes, and with another ticket when
the answer is empty.

    Answers env w' ..       a copy is answered as the first one was
    handshake_iff           every copy of a run is, exactly if every copy finds the connection
                            in SYN_RECV, and its answer can be encoded

The first copy that is taken leaves SYN_RECV, so the copies behind it get no answer.
-/

namespace Ghostbusters
namespace Handshake

open Py Act PRUDPServer

variable (env : Env)

/-- A CONNECT is delivered that echoes the signature of the connection in the table. -/
structure Echoes (w : World) (e : Event) (port : Port) (remote : Remote) (pkt : PRUDPPacket)
    (c : ConnId) : Prop where
  event : e = .packet port remote pkt
  type : pkt.type = .connect
  listed : (w.connections port).get? remote = some c
  signature : pkt.signature = (w.heap c).serverConnSig

/-- The log entries of a step. -/
def added (w w' : World) : List TraceEntry := w'.trace.drop w.trace.length

theorem added_of_append {w w' : World} {new : List TraceEntry} (h : w'.trace = w.trace ++ new) :
    added w w' = new := by
  unfold added
  rw [h, List.drop_left]

/-- What is wanted of a copy: an answer under its packet id; of one with a valid ticket,
the token for its check value, and the connection of the ticket's player; and a
further copy leaves the connection as this one did. -/
structure Answers (port : Port) (remote : Remote) (pkt : PRUDPPacket) (c : ConnId)
    (w w' : World) : Prop where
  answered : ∃ token, .sendto (w.heap c).remote (connectAckPacket env (w'.heap c) pkt.packetId token) ∈
    added w w'
  proven : ∀ sessionKey pid check, proven env port pkt = some (sessionKey, pid, check) →
    .sendto (w.heap c).remote (connectAckPacket env (w'.heap c) pkt.packetId
      (Kerberos.buildConnectAckToken check)) ∈ added w w' ∧
    (w'.heap c).state = .established ∧ (w'.heap c).userPid = pid
  again : (step env (.packet port remote pkt) w').heap c = w'.heap c

def AllAnswered (e : Event) (w : World) : Prop :=
  ∀ port remote pkt c, Echoes w e port remote pkt c → Answers env port remote pkt c w (step env e w)

/-- The connection waits for its first CONNECT, and the codec takes the answer. -/
def Awaited (e : Event) (w : World) : Prop :=
  ∀ port remote pkt c, Echoes w e port remote pkt c → (w.heap c).state = .synRecv ∧
    env.packetEncodes (connectAckPacket env (w.established c pkt) pkt.packetId
      (connectToken env port pkt)) = true

variable {env} {w : World} {e : Event} {port : Port} {remote : Remote} {pkt : PRUDPPacket} {c : ConnId}

theorem Echoes.step (h : Echoes w e port remote pkt c) :
    step env e w = (handleConnect env port pkt c).after w := by
  rw [h.event, step_packet env h.listed, h.type]

/-- A copy behind the first that was taken changes nothing. -/
theorem step_refused (h : Echoes w e port remote pkt c) (hs : (w.heap c).state ≠ .synRecv) :
    step env e w = w := by
  rw [h.step]
  exact handleConnect_refused env port pkt c w (.inl hs)

theorem heap_connected (w : World) (port : Port) (pkt : PRUDPPacket) (c : ConnId) :
    (connected env w port pkt c).heap c = match proven env port pkt with
      | none => w.established c pkt
      | some (sessionKey, pid, _) =>
        { w.established c pkt with sessionKey := sessionKey, userPid := pid } := by
  unfold connected
  cases proven env port pkt with
  | none => exact (World.heap_withConn w c c _).trans (if_pos rfl)
  | some r => exact (World.heap_withConn w c c _).trans (if_pos rfl)

/-- The answer does not depend on what the ticket proves. -/
theorem connectAckPacket_connected (w : World) (port : Port) (pkt : PRUDPPacket) (c : ConnId)
    (clientPid : Nat) (token : Bytes) :
    connectAckPacket env ((connected env w port pkt c).heap c) clientPid token =
      connectAckPacket env (w.established c pkt) clientPid token := by
  rw [heap_connected]
  split <;> rfl

theorem remote_connected (w : World) (port : Port) (pkt : PRUDPPacket) (c : ConnId) :
    ((connected env w port pkt c).heap c).remote = (w.heap c).remote := by
  rw [heap_connected]
  split <;> rfl

theorem state_connected (w : World) (port : Port) (pkt : PRUDPPacket) (c : ConnId) :
    ((connected env w port pkt c).heap c).state = .established := by
  rw [heap_connected]
  split <;> rfl

/-- A taken CONNECT is logged, if at all, as taken; nothing has been sent yet. -/
theorem trace_connected (w : World) (port : Port) (pkt : PRUDPPacket) (c : ConnId) :
    ∃ new, (connected env w port pkt c).trace = w.trace ++ new ∧ ∀ e ∈ new, e = .connectAck c := by
  unfold connected
  split
  · exact ⟨[], (List.append_nil _).symm, by simp⟩
  · exact ⟨[.connectAck c], rfl, by simp⟩

theorem connections_connected (w : World) (port : Port) (pkt : PRUDPPacket) (c : ConnId) :
    (connected env w port pkt c).connections = w.connections := by
  unfold connected
  split <;> rfl

/-- **The first copy.** -/
theorem answers_of_awaited (h : Echoes w e port remote pkt c) (hs : (w.heap c).state = .synRecv)
    (henc : env.packetEncodes (connectAckPacket env (w.established c pkt) pkt.packetId
      (connectToken env port pkt)) = true) :
    Answers env port remote pkt c w (step env e w) := by
  let ack := connectAckPacket env (w.established c pkt) pkt.packetId (connectToken env port pkt)
  have hstep : step env e w =
      (connected env w port pkt c).logged (.sendto (w.heap c).remote ack) := by
    rw [h.step]
    unfold after
    rw [handleConnect_run env port pkt c w hs h.signature, sendConnectAck_run,
      connectAckPacket_connected, remote_connected, if_pos henc]
  have hheap : (step env e w).heap c = (connected env w port pkt c).heap c := by
    rw [hstep]
    rfl
  have hsent : .sendto (w.heap c).remote (connectAckPacket env ((step env e w).heap c) pkt.packetId
      (connectToken env port pkt)) ∈ added w (step env e w) := by
    obtain ⟨new, hnew, -⟩ := @trace_connected env w port pkt c
    have htrace : (step env e w).trace = w.trace ++ (new ++ [.sendto (w.heap c).remote ack]) := by
      rw [hstep]
      show (connected env w port pkt c).trace ++ _ = _
      rw [hnew, List.append_assoc]
    rw [hheap, connectAckPacket_connected, added_of_append htrace]
    exact List.mem_append_right _ (List.mem_singleton.mpr rfl)
  refine ⟨⟨_, hsent⟩, ?_, ?_⟩
  · intro sessionKey pid check hp
    have htoken : connectToken env port pkt = Kerberos.buildConnectAckToken check := by
      unfold connectToken
      rw [hp]
    rw [htoken] at hsent
    refine ⟨hsent, ?_, ?_⟩
    · rw [hheap, state_connected]
    · rw [hheap, heap_connected, hp]
  · have hsig : pkt.signature = ((step env e w).heap c).serverConnSig := by
      rw [h.signature, hheap, heap_connected]
      split <;> rfl
    have hlisted : ((step env e w).connections port).get? remote = some c := by
      rw [hstep]
      show ((connected env w port pkt c).connections port).get? remote = some c
      rw [connections_connected]
      exact h.listed
    have hest : ((step env e w).heap c).state ≠ .synRecv := by
      rw [hheap, state_connected]
      exact fun h => by cases h
    rw [step_refused ⟨rfl, h.type, hlisted, hsig⟩ hest]

/-- A copy that does not find the connection waiting, or whose answer cannot be encoded,
gets none. -/
theorem awaited_of_answers (h : Echoes w e port remote pkt c)
    (ha : Answers env port remote pkt c w (step env e w)) :
    (w.heap c).state = .synRecv ∧
      env.packetEncodes (connectAckPacket env (w.established c pkt) pkt.packetId
        (connectToken env port pkt)) = true := by
  obtain ⟨token, hmem⟩ := ha.answered
  have hs : (w.heap c).state = .synRecv := by
    by_contra hs
    have hnone : added w w = [] := added_of_append (List.append_nil _).symm
    rw [step_refused h hs, hnone] at hmem
    cases hmem
  refine ⟨hs, ?_⟩
  by_contra henc
  have hstep : step env e w = connected env w port pkt c := by
    rw [h.step]
    unfold after
    rw [handleConnect_run env port pkt c w hs h.signature, sendConnectAck_run,
      connectAckPacket_connected, if_neg henc]
  obtain ⟨new, hnew, hall⟩ := @trace_connected env w port pkt c
  rw [hstep, added_of_append hnew] at hmem
  cases hall _ hmem

theorem allAnswered_iff (e : Event) (w : World) : AllAnswered env e w ↔ Awaited env e w := by
  constructor
  · intro h port remote pkt c he
    exact awaited_of_answers he (h port remote pkt c he)
  · intro h port remote pkt c he
    obtain ⟨hs, henc⟩ := h port remote pkt c he
    exact answers_of_awaited he hs henc

/-- **The copies that are answered**: in a run every copy of a CONNECT is answered as the
client needs it, exactly if every copy finds its connection in SYN_RECV, and its answer
can be encoded. -/
theorem handshake_iff (es : List Event) (w : World) :
    Guarded (step env) (AllAnswered env) es w ↔ Guarded (step env) (Awaited env) es w :=
  guarded_congr (I := fun _ => True) (fun _ _ _ => trivial) (fun e w _ => allAnswered_iff e w) es w
    trivial

/-- The first CONNECT carries no ticket; the client sends another one with a ticket for
PID 10000. -/
def retried : List Event :=
  [.packet .secure (Sample.remote 1) Sample.syn,
   .packet .secure (Sample.remote 1) (Sample.connect []),
   .packet .secure (Sample.remote 1) (Sample.connect Sample.ticketPayload)]

/-- The second one is not answered. -/
theorem not_answered_retried :
    ¬ Guarded (step Sample.env) (AllAnswered Sample.env) retried World.initial := by
  rintro ⟨-, -, hlast, -⟩
  let w := step Sample.env (.packet .secure (Sample.remote 1) (Sample.connect []))
    (step Sample.env (.packet .secure (Sample.remote 1) Sample.syn) World.initial)
  have hlisted : (w.connections .secure).get? (Sample.remote 1) = some 0 := by decide
  have hsig : (Sample.connect Sample.ticketPayload).signature = (w.heap 0).serverConnSig := by decide
  have hstate : (w.heap 0).state ≠ .synRecv := by decide
  have he : Echoes w (.packet .secure (Sample.remote 1) (Sample.connect Sample.ticketPayload)) .secure
      (Sample.remote 1) (Sample.connect Sample.ticketPayload) 0 := ⟨rfl, rfl, hlisted, hsig⟩
  exact hstate (awaited_of_answers he (hlast _ _ _ _ he)).1

end Handshake
end Ghostbusters
