import GhostbustersServer.Guarantees.Responses
import GhostbustersServer.Guarantees.Streams

/-!
# Calls and their answers

The requests of all clients go through one dispatcher a port, one packet at a time.

    calls c w             the requests that have been handed over on a connection
    answers c w           the answers that it has been sent, or that could not be encoded
    answered_in_order     over every run, they are one for each request that its receiver
                          makes of its own packets, in order
-/

namespace Ghostbusters
namespace Calls

open Py Act PRUDPServer Delivery Streams Responses

/-- The request in a body. -/
def callOf (body : Bytes) : Option Request :=
  match Rmc.decode body with
  | .ok (.request req) => some req
  | _ => none

def calls (c : ConnId) (w : World) : List Request := (delivered c w).filterMap callOf

instance : DecidablePred Message.IsAnswer := fun msg =>
  match msg with
  | .request _ => .isFalse id
  | .ok _ => .isTrue trivial
  | .error _ => .isTrue trivial

/-- The answer that an entry of the log sends to a connection. -/
def answerIn (c : ConnId) : TraceEntry → Option Message
  | .sent _ k msg | .sendFailed _ k msg => if k = c ∧ msg.IsAnswer then some msg else none
  | _ => none

def answers (c : ConnId) (w : World) : List Message := w.trace.filterMap (answerIn c)

/-! ## Entries that are neither -/

/-- No body and no answer of a connection. -/
def Bystanding (c : ConnId) (e : TraceEntry) : Prop := bodyIn c e = none ∧ answerIn c e = none

theorem answerIn_of_not_message {c : ConnId} {e : TraceEntry} (h : ¬ e.IsMessage) :
    answerIn c e = none := by
  cases e <;> first | rfl | exact absurd trivial h

theorem answerIn_of_push {c : ConnId} {e : TraceEntry} (h : IsPush e) : answerIn c e = none := by
  unfold IsPush at h
  split at h
  · exact if_neg And.right
  · exact if_neg And.right
  · exact h.elim

theorem bystanding_packet {c : ConnId} {e : TraceEntry} (h : e.IsPacket) : Bystanding c e :=
  ⟨bodyIn_isSend h.isSend, answerIn_of_not_message fun hm => by
    cases e <;> first | exact h.elim | exact hm.elim⟩

theorem bystanding_pushes {c : ConnId} {e : TraceEntry} (h : e.FromHandler) (hp : OnlyPushes e) :
    Bystanding c e := by
  refine ⟨bodyIn_fromHandler h, ?_⟩
  by_cases hm : e.IsMessage
  · exact answerIn_of_push (hp hm)
  · exact answerIn_of_not_message hm

/-! ## One event -/

/-- The requests handed over between two states, and their answers. -/
def Exchanged (c : ConnId) (w w' : World) : Prop :=
  ∃ reqs msgs, calls c w' = calls c w ++ reqs ∧ answers c w' = answers c w ++ msgs ∧
    List.Forall₂ Message.AnswersTo reqs msgs

instance (c : ConnId) : IsPreorder World (Exchanged c) where
  refl := fun w => ⟨[], [], (List.append_nil _).symm, (List.append_nil _).symm, .nil⟩
  trans := by
    rintro a b d ⟨reqs, msgs, hr, hm, h⟩ ⟨reqs', msgs', hr', hm', h'⟩
    refine ⟨reqs ++ reqs', msgs ++ msgs', ?_, ?_, List.rel_append h h'⟩
    · rw [hr', hr, List.append_assoc]
    · rw [hm', hm, List.append_assoc]

theorem exchanged_of_bystanding {c : ConnId} {w w' : World} (h : LogGrows (Bystanding c) w w') :
    Exchanged c w w' := by
  refine ⟨[], [], ?_, ?_, .nil⟩
  · unfold calls
    rw [delivered_of_grows h fun _ he => he.1, List.append_nil]
  · obtain ⟨new, hnew, hall⟩ := h
    unfold answers
    rw [hnew, List.filterMap_append, List.filterMap_eq_nil_iff.mpr fun e he => (hall e he).2]

theorem exchanged_of_packets {c : ConnId} {w w' : World} (h : LogGrows TraceEntry.IsPacket w w') :
    Exchanged c w w' := exchanged_of_bystanding (h.mono fun _ => bystanding_packet)

variable (env : Env)

/-- A timer's batch is pushed, and answers nobody. -/
theorem expire_exchanged (c : ConnId) (id : TimerId) (w : World) :
    Exchanged c w ((expire env id).after w) := by
  have hpushes : Within (LogGrows OnlyPushes) (expire env id) :=
    expire_within ((passes_onlyPushes env).batching (sendRequest_onlyPushes env)) id
  obtain ⟨new, hnew, hframed⟩ := (expire_spec env id w).framed.log
  obtain ⟨new', hnew', honly⟩ := hpushes w
  obtain rfl : new = new' := List.append_cancel_left (hnew.symm.trans hnew')
  exact exchanged_of_bystanding
    ⟨new, hnew, fun e he => bystanding_pushes (hframed e he) (honly e he)⟩

theorem answers_messages (c : ConnId) (entries : List TraceEntry) :
    entries.filterMap (answerIn c) = (messages entries).filterMap (answerIn c) := by
  unfold messages
  rw [List.filterMap_filter]
  refine List.filterMap_congr fun e _ => ?_
  by_cases hm : e.IsMessage
  · simp [hm]
  · simp [hm, answerIn_of_not_message hm]

/-- What is behind a request: its answer goes to its connection. -/
theorem answers_responded {port : Port} {k : ConnId} {req : Request} {entries : List TraceEntry}
    (h : Responded port k req (messages entries)) (c : ConnId) :
    ∃ msg, msg.AnswersTo req ∧
      entries.filterMap (answerIn c) = if k = c then [msg] else [] := by
  obtain ⟨pushes, msg, hpushes, hans, hsent⟩ := h
  refine ⟨msg, hans, ?_⟩
  have hnone : pushes.filterMap (answerIn c) = [] :=
    List.filterMap_eq_nil_iff.mpr fun e he => answerIn_of_push (hpushes e he)
  have hlast : ∀ e, e = TraceEntry.sent port k msg ∨ e = .sendFailed port k msg →
      [e].filterMap (answerIn c) = if k = c then [msg] else [] := by
    rintro e (rfl | rfl) <;> by_cases hk : k = c <;> simp [answerIn, hk, hans.isAnswer]
  rw [answers_messages]
  rcases hsent with hsent | hsent
  · rw [hsent, List.filterMap_append, hnone, hlast _ (.inl rfl), List.nil_append]
  · rw [hsent, List.filterMap_append, hnone, hlast _ (.inr rfl), List.nil_append]

/-- **A request and its answer**, from the entry of its body on. -/
theorem request_exchanged {port : Port} {k : ConnId} {body : Bytes} {req : Request}
    (hreq : callOf body = some req) (c : ConnId) (w : World) :
    Exchanged c w ((RMCDispatcher.respond env port k req >>= RMCDispatcher.send env port k).after
      (w.logged (.onPayload port k body))) := by
  let w1 := w.logged (.onPayload port k body)
  obtain ⟨new, hnew, hresp⟩ := respond_send_messages env port k req w1
  obtain ⟨msg, hans, hmsg⟩ := answers_responded hresp c
  have hframed : Framed w1
      ((RMCDispatcher.respond env port k req >>= RMCDispatcher.send env port k).after w1) :=
    trans_of Framed (respond_framed env port k req w1)
      (respond_send_after env port k req w1).toQuiet.framed
  have hbodies : delivered c
      ((RMCDispatcher.respond env port k req >>= RMCDispatcher.send env port k).after w1) =
      delivered c w ++ if k = c then [body] else [] := by
    rw [delivered_of_grows hframed.log fun _ => bodyIn_fromHandler]
    show (w.trace ++ [_]).filterMap (bodyIn c) = _
    rw [List.filterMap_append]
    by_cases hk : k = c <;> simp [bodyIn, hk, delivered]
  have hanswers : answers c
      ((RMCDispatcher.respond env port k req >>= RMCDispatcher.send env port k).after w1) =
      answers c w ++ if k = c then [msg] else [] := by
    unfold answers
    rw [hnew, List.filterMap_append, hmsg]
    show (w.trace ++ [_]).filterMap (answerIn c) ++ _ = _
    rw [List.filterMap_append, show [TraceEntry.onPayload port k body].filterMap (answerIn c) = []
      from rfl, List.append_nil]
  by_cases hk : k = c
  · rw [if_pos hk] at hbodies hanswers
    refine ⟨[req], [msg], ?_, hanswers, .cons hans .nil⟩
    unfold calls
    rw [hbodies, List.filterMap_append]
    simp [hreq]
  · rw [if_neg hk, List.append_nil] at hbodies hanswers
    refine ⟨[], [], ?_, by rw [hanswers, List.append_nil], .nil⟩
    unfold calls
    rw [hbodies, List.append_nil]

/-- The body that an event delivers, and the request in it. -/
theorem requestOf_eq {e : Event} {w : World} {port : Port} {k : ConnId} {body : Bytes}
    (hb : bodyOf env w e = some (port, k, body)) :
    requestOf env w e = (callOf body).map fun req => (port, k, req) := by
  unfold requestOf callOf
  rw [hb]
  dsimp only
  generalize Rmc.decode body = decoded
  cases decoded with
  | error e => rfl
  | ok msg => cases msg <;> rfl

/-- **Every event** answers, on every connection, the requests it hands over. -/
theorem step_exchanged (c : ConnId) (e : Event) (w : World) : Exchanged c w (step env e w) := by
  have hevicted : ∀ w port remote, Exchanged c w (w.evicted port remote) := fun w port remote =>
    exchanged_of_bystanding ⟨[.closeHooks port remote], rfl, by simp [Bystanding, bodyIn, answerIn]⟩
  generalize hw' : step env e w = w'
  have hstep := step_cases env e w
  rw [hw'] at hstep
  cases hstep with
  | still _ hr => exact exchanged_of_packets hr.packets
  | syn _ hq =>
    obtain ⟨new, hnew, hall⟩ := hq.packets
    exact exchanged_of_packets ⟨new, hnew, hall⟩
  | connect _ _ hq =>
    obtain ⟨new, hnew, hall⟩ := hq.packets
    exact exchanged_of_packets ⟨new, hnew, hall⟩
  | @connectAck port remote pkt k sessionKey pid check _ _ _ hq =>
    have hlog : LogGrows (Bystanding c) w
        ((w.withConn k { w.established k pkt with sessionKey := sessionKey, userPid := pid }).logged
          (.connectAck k)) :=
      ⟨[.connectAck k], rfl, by simp [Bystanding, bodyIn, answerIn]⟩
    exact trans_of (Exchanged c) (exchanged_of_bystanding hlog) (exchanged_of_packets hq.packets)
  | @unhandled _ port k body w1 hb hn hr =>
    refine trans_of (Exchanged c) (exchanged_of_packets hr.packets) ?_
    have hno : callOf body = none := by
      rw [requestOf_eq env hb, Option.map_eq_none_iff] at hn
      exact hn
    refine ⟨[], [], ?_, ?_, .nil⟩
    · show ((w1.trace ++ [_]).filterMap (bodyIn c)).filterMap callOf = _
      rw [List.filterMap_append, List.filterMap_append]
      by_cases hk : k = c <;> simp [bodyIn, hk, hno, calls, delivered]
    · show (w1.trace ++ [_]).filterMap (answerIn c) = _
      rw [List.filterMap_append]
      rfl
  | @request _ port k body req w1 hb hreq hr =>
    have hcall : callOf body = some req := by
      rw [requestOf_eq env hb] at hreq
      obtain ⟨req', hreq', he⟩ := Option.map_eq_some_iff.mp hreq
      cases he
      exact hreq'
    exact trans_of (Exchanged c) (exchanged_of_packets hr.packets)
      (request_exchanged env hcall c w1)
  | strayDisconnect => exact hevicted w _ _
  | @disconnect port remote pkt k w1 _ _ hr =>
    have hclosed : Exchanged c w1 (w1.withConn k { w1.heap k with state := .closed }) :=
      exchanged_of_packets (.of_same rfl)
    exact trans_of (Exchanged c) (trans_of (Exchanged c) (exchanged_of_packets hr.packets) hclosed)
      (hevicted _ _ _)
  | reap =>
    generalize staleRemotes w _ _ = remotes
    clear hw'
    induction remotes generalizing w with
    | nil => exact refl_of (Exchanged c) w
    | cons remote remotes ih => exact trans_of (Exchanged c) (hevicted w _ remote) (ih _)
  | timer => exact expire_exchanged env c _ w

/-! ## Every run -/

/-- **A client's calls are answered, one by one and in order.**  Over every run, what a
connection is sent by way of answers is one answer for each request that its receiver makes
of the packets of its own client while it is listed, under that request's protocol and call
id; nothing that others do adds, drops or reorders one, and at no moment is one outstanding. -/
theorem answered_in_order (w : World) (hs : Sound w) (port : Port) (remote : Remote) (c : ConnId)
    (hc : (w.connections port).get? remote = some c) (es : List Event) :
    ∃ n, (∀ m ≤ es.length,
        ((runs (step env) (es.take m) w).connections port).get? remote = some c ↔ m < n) ∧
      ∃ msgs, answers c (runs (step env) es w) = answers c w ++ msgs ∧
        List.Forall₂ Message.AnswersTo ((bodies env (receiver (w.heap c))
          ((es.take n).filterMap (own port remote))).filterMap callOf) msgs := by
  obtain ⟨n, hn, hbefore, hafter⟩ := exists_lifetime
    (L := fun w => (w.connections port).get? remote = some c) (I := Placed port remote c)
    (fun e _ h => h.step env e) (fun e _ h hL hget => hL (get?_step env e h.sound h.lt hget)) es w
    (placed_of_listed hs hc)
  obtain ⟨reqs, msgs, hcalls, hanswers, hall⟩ :=
    runs_rel (refl_of (Exchanged c)) (fun _ _ _ => trans_of (Exchanged c))
      (step_exchanged env c) es w
  refine ⟨n, hn, msgs, hanswers, ?_⟩
  have hown : calls c (runs (step env) es w) = calls c w ++ ((bodies env (receiver (w.heap c))
      ((es.take n).filterMap (own port remote))).filterMap callOf) := by
    unfold calls
    rw [delivered_of_lifetime env es w n hbefore hafter, List.filterMap_append]
  rw [← List.append_cancel_left (hcalls.symm.trans hown)]
  exact hall

/-- The first client calls a method that nobody has registered, and then SocialList; the
second calls in between, and leaves. -/
def callers : List Event :=
  [.packet .auth (Sample.remote 1) (Sample.data 1 60 99 []),
   .packet .auth (Sample.remote 2) (Sample.data 1 60 22 []),
   .packet .auth (Sample.remote 2) { type := .disconnect },
   .packet .auth (Sample.remote 1) (Sample.data 2 60 22 [])]

example : answers 0 (runs (step Sample.env) callers twoClients) =
    [.error ⟨60, 1, 0x80010001⟩, .ok ⟨60, 22, 1, []⟩] := by decide +kernel

theorem answered_in_order_two : ∃ n,
    (∀ m ≤ callers.length, ((runs (step Sample.env) (callers.take m) twoClients).connections
      .auth).get? (Sample.remote 1) = some 0 ↔ m < n) ∧
    ∃ msgs, answers 0 (runs (step Sample.env) callers twoClients) = answers 0 twoClients ++ msgs ∧
      List.Forall₂ Message.AnswersTo ((bodies Sample.env (receiver (twoClients.heap 0))
        ((callers.take n).filterMap (own .auth (Sample.remote 1)))).filterMap callOf) msgs :=
  answered_in_order Sample.env twoClients (Sample.world_sound _) .auth (Sample.remote 1) 0
    (by decide) callers

end Calls
end Ghostbusters
