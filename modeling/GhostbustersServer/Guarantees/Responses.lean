import GhostbustersServer.Effects.Ids
import GhostbustersServer.Guarantees.Sample

/-!
# One response to a request

    Numbered w       the pushes of each dispatcher are under increasing call ids, below its next
    one_response     in every state, a body is answered once if it is a request and not at
                     all otherwise, and all that goes out before is pushes

Whether the method is unknown, the handler returns or it raises makes no difference.
-/

namespace Ghostbusters
namespace Responses

open Py Act

instance (e : TraceEntry) : Decidable e.IsMessage := by
  unfold TraceEntry.IsMessage
  split <;> infer_instance

/-- The messages of a log. -/
def messages (trace : List TraceEntry) : List TraceEntry := trace.filter fun e => decide e.IsMessage

def IsPush : TraceEntry → Prop
  | .sent _ _ (.request _) | .sendFailed _ _ (.request _) => True
  | _ => False

/-- The call id of a push of a dispatcher. -/
def pushId (port : Port) : TraceEntry → Option Nat
  | .sent p _ (.request r) | .sendFailed p _ (.request r) => if p = port then some r.callId else none
  | _ => none

def pushIds (port : Port) (trace : List TraceEntry) : List Nat := trace.filterMap (pushId port)

theorem pushId_of_not_push {e : TraceEntry} (h : ¬ IsPush e) (port : Port) :
    pushId port e = none := by
  unfold pushId
  split
  · exact absurd trivial h
  · exact absurd trivial h
  · rfl

theorem not_push_of_not_message {e : TraceEntry} (h : ¬ e.IsMessage) : ¬ IsPush e := by
  intro hp
  cases e <;> first | exact h trivial | exact hp.elim

theorem not_push_of_answer {msg : Message} (h : msg.IsAnswer) (port : Port) (c : ConnId) :
    ¬ IsPush (.sent port c msg) ∧ ¬ IsPush (.sendFailed port c msg) := by
  cases msg with
  | request r => exact h.elim
  | ok r => exact ⟨id, id⟩
  | error r => exact ⟨id, id⟩

theorem pushIds_append_silent {trace new : List TraceEntry} (h : ∀ e ∈ new, ¬ IsPush e) (port : Port) :
    pushIds port (trace ++ new) = pushIds port trace := by
  unfold pushIds
  have hnone : new.filterMap (pushId port) = [] :=
    List.filterMap_eq_nil_iff.mpr fun e he => pushId_of_not_push (h e he) port
  rw [List.filterMap_append, hnone, List.append_nil]

/-! ## Call ids -/

structure Numbered (w : World) : Prop where
  increasing : ∀ port, (pushIds port w.trace).Pairwise (· < ·)
  below : ∀ port, ∀ id ∈ pushIds port w.trace, id < w.serverCallId port

theorem Numbered.silent {w w' : World} (hlog : LogGrows (fun e => ¬ IsPush e) w w')
    (hid : w'.serverCallId = w.serverCallId) (h : Numbered w) : Numbered w' := by
  obtain ⟨new, hnew, hall⟩ := hlog
  have hids : ∀ port, pushIds port w'.trace = pushIds port w.trace := fun port => by
    rw [hnew, pushIds_append_silent hall]
  refine ⟨fun port => ?_, fun port => ?_⟩
  · rw [hids]
    exact h.increasing port
  · rw [hids, hid]
    exact h.below port

theorem Numbered.inert {w w' : World} (hi : Inert w w') (h : Numbered w) : Numbered w' :=
  h.silent (hi.log.mono fun _ he => not_push_of_not_message he) hi.serverCallId

/-- A push under the next call id. -/
theorem Numbered.pushed {w w' : World} {port : Port} {e : TraceEntry} (h : Numbered w)
    (he : ∀ p, pushId p e = if port = p then some (w.serverCallId port) else none)
    (htrace : w'.trace = w.trace ++ [e])
    (hid : w'.serverCallId = Function.update w.serverCallId port (w.serverCallId port + 1)) :
    Numbered w' := by
  have hids : ∀ p, pushIds p w'.trace =
      pushIds p w.trace ++ if port = p then [w.serverCallId port] else [] := by
    intro p
    unfold pushIds
    rw [htrace, List.filterMap_append, List.filterMap_cons, he p]
    by_cases hp : port = p
    · rw [if_pos hp, if_pos hp]
      rfl
    · rw [if_neg hp, if_neg hp]
      rfl
  refine ⟨fun p => ?_, fun p => ?_⟩
  · rw [hids]
    split
    · next hp =>
      refine List.pairwise_append.mpr ⟨h.increasing p, List.pairwise_singleton _ _, ?_⟩
      intro a ha b hb
      rw [List.mem_singleton.mp hb, hp]
      exact h.below p a ha
    · rw [List.append_nil]
      exact h.increasing p
  · rw [hids, hid]
    intro i hi
    by_cases hp : port = p
    · subst hp
      rw [Function.update_self]
      rw [if_pos rfl] at hi
      rcases List.mem_append.mp hi with hi | hi
      · exact Nat.lt_succ_of_lt (h.below port i hi)
      · rw [List.mem_singleton.mp hi]
        exact Nat.lt_succ_self _
    · rw [Function.update_of_ne (Ne.symm hp)]
      rw [if_neg hp, List.append_nil] at hi
      exact h.below p i hi

variable (env : Env)

theorem sendRequest_numbered (port : Port) (c : ConnId) (proto method : Nat) (params : Bytes) :
    Within (Keeps Numbered) (RMCDispatcher.sendRequest env port c proto method params) := by
  intro w hw
  -- the call id is used up before the push is sent
  let w0 : World := { w with
    serverCallId := Function.update w.serverCallId port (w.serverCallId port + 1) }
  let msg : Message := .request { proto, method, callId := w.serverCallId port, params }
  have hrun : (RMCDispatcher.sendRequest env port c proto method params).run w =
      (RMCDispatcher.send env port c msg).run w0 := rfl
  rw [hrun]
  obtain ⟨w1, hi, hsent⟩ := Inert.send_after env port c msg w0
  have hlog : LogGrows (fun e => ¬ IsPush e) w { w1 with serverCallId := w.serverCallId } :=
    hi.log.mono fun _ he => not_push_of_not_message he
  have hback : Numbered { w1 with serverCallId := w.serverCallId } := hw.silent hlog rfl
  rcases hsent with h | ⟨e, h⟩
  · have hid : ∀ p, pushId p (.sent port c msg) =
        if port = p then some (w.serverCallId port) else none := fun _ => rfl
    rw [h]
    exact hback.pushed hid rfl hi.serverCallId
  · have hid : ∀ p, pushId p (.sendFailed port c msg) =
        if port = p then some (w.serverCallId port) else none := fun _ => rfl
    rw [h]
    exact hback.pushed hid rfl hi.serverCallId

theorem send_numbered (port : Port) (c : ConnId) (msg : Message) (hm : msg.IsAnswer) :
    Within (Keeps Numbered) (RMCDispatcher.send env port c msg) := by
  intro w hw
  obtain ⟨hs, hf⟩ := not_push_of_answer hm port c
  obtain ⟨w1, hi, h | ⟨e, h⟩⟩ := Inert.send_after env port c msg w
  · rw [h]
    exact (hw.inert hi).silent ⟨[_], rfl, by simpa using hs⟩ rfl
  · rw [h]
    exact (hw.inert hi).silent ⟨[_], rfl, by simpa using hf⟩ rfl

theorem bumpTxn_numbered (pid : Nat) : Within (Keeps Numbered) (Game.bumpTxn pid) := by
  intro w hw
  have hlog : LogGrows (fun e => ¬ IsPush e) w ((Game.bumpTxn pid).run w).2 := .of_same rfl
  exact hw.silent hlog rfl

theorem admits_numbered : Admits env (Keeps Numbered) where
  inert := fun _ _ h hw => hw.inert h
  push := fun port c proto method params _ => sendRequest_numbered env port c proto method params
  event := fun port c _ _ _ _ _ _ _ => sendRequest_numbered env port c _ _ _
  register := fun c req w hw => by
    have h := registerEx_fixes c req w
    exact hw.silent (.of_same (congrArg Prod.fst h)) (congrArg (fun x => x.2.1) h)
  answer := send_numbered env
  opened := fun w port remote hw => by
    have hlog : LogGrows (fun e => ¬ IsPush e) w (w.synReceived env port remote) := .of_same rfl
    exact hw.silent hlog rfl

theorem step_numbered (e : Event) (w : World) (hw : Numbered w) : Numbered (step env e w) :=
  (admits_numbered env).step_all (sendRequest_numbered env) bumpTxn_numbered e w hw

theorem onPayload_numbered (port : Port) (c : ConnId) (body : Bytes) :
    Within (Keeps Numbered) (RMCDispatcher.onPayload env port c body) := by
  have ha := admits_numbered env
  unfold RMCDispatcher.onPayload
  split
  · next req _ =>
    refine fun w => WithinAt.bind (ha.toPasses.respond (sendRequest_numbered env)
      bumpTxn_numbered port c req (fun _ => ha.register c req) w) ?_
    intro msg w' hm
    exact send_numbered env port c msg (respond_answers env port c req w msg w' hm).isAnswer w'
  · exact Within.pure _

/-! ## Messages -/

/-- What is behind a request before its answer: of messages, only pushes. -/
def OnlyPushes (e : TraceEntry) : Prop := e.IsMessage → IsPush e

theorem sendRequest_onlyPushes (port : Port) (c : ConnId) (proto method : Nat) (params : Bytes) :
    Within (LogGrows OnlyPushes) (RMCDispatcher.sendRequest env port c proto method params) := by
  refine Within.bind Within.get fun w0 => ?_
  refine Within.bind (Within.modify fun _ => .of_same rfl) fun _ => ?_
  intro w
  obtain ⟨w1, hi, h | ⟨e, h⟩⟩ := Inert.send_after env port c
    (.request { proto, method, callId := w0.serverCallId port, params }) w
  · unfold WithinAt
    rw [h]
    refine LogGrows.trans (hi.log.mono fun _ he hm => absurd hm he) ⟨[_], rfl, ?_⟩
    intro e he
    rw [List.mem_singleton.mp he]
    exact fun _ => trivial
  · unfold WithinAt
    rw [h]
    refine LogGrows.trans (hi.log.mono fun _ he hm => absurd hm he) ⟨[_], rfl, ?_⟩
    intro e he
    rw [List.mem_singleton.mp he]
    exact fun _ => trivial

theorem passes_onlyPushes : Passes env (LogGrows OnlyPushes) where
  inert := fun _ _ h => h.log.mono fun _ he hm => absurd hm he
  push := fun port c proto method params _ => sendRequest_onlyPushes env port c proto method params
  event := fun port c _ _ _ _ _ _ _ => sendRequest_onlyPushes env port c _ _ _

theorem respond_onlyPushes (port : Port) (c : ConnId) (req : Request) :
    Within (LogGrows OnlyPushes) (RMCDispatcher.respond env port c req) :=
  (passes_onlyPushes env).respond (sendRequest_onlyPushes env) (fun _ _ => .of_same rfl) port c req
    fun _ w => .of_same (congrArg Prod.fst (registerEx_fixes c req w))

/-- There is an answer, whatever happens. -/
theorem respond_returns (port : Port) (c : ConnId) (req : Request) (w : World) :
    ∃ msg, (RMCDispatcher.respond env port c req).run w =
      (.ok msg, (RMCDispatcher.respond env port c req).after w) ∧ msg.AnswersTo req := by
  have hret : ∃ msg, (RMCDispatcher.respond env port c req).run w =
      (.ok msg, (RMCDispatcher.respond env port c req).after w) := by
    cases hh : RMCDispatcher.handlerFor env req with
    | none =>
      unfold after RMCDispatcher.respond
      rw [hh]
      exact ⟨_, rfl⟩
    | some h =>
      unfold after
      rw [respond_run env hh]
      exact ⟨_, rfl⟩
  obtain ⟨msg, hm⟩ := hret
  exact ⟨msg, hm, respond_answers env port c req w msg _ hm⟩

theorem messages_append (a b : List TraceEntry) : messages (a ++ b) = messages a ++ messages b :=
  List.filter_append a b

theorem messages_silent {entries : List TraceEntry} (h : ∀ e ∈ entries, ¬ e.IsMessage) :
    messages entries = [] :=
  List.filter_eq_nil_iff.mpr fun e he => by simpa using h e he

/-- The messages of a body that is request `req` of `c`: pushes, and last the answer;
sending that one may raise. -/
def Responded (port : Port) (c : ConnId) (req : Request) (sent : List TraceEntry) : Prop :=
  ∃ pushes msg, (∀ e ∈ pushes, IsPush e) ∧ msg.AnswersTo req ∧
    (sent = pushes ++ [.sent port c msg] ∨ sent = pushes ++ [.sendFailed port c msg])

theorem respond_send_messages (port : Port) (c : ConnId) (req : Request) (w : World) :
    ∃ new, ((RMCDispatcher.respond env port c req >>= RMCDispatcher.send env port c).after w).trace =
      w.trace ++ new ∧ Responded port c req (messages new) := by
  obtain ⟨msg, hrun, hans⟩ := respond_returns env port c req w
  obtain ⟨new, hnew, hpushes⟩ := respond_onlyPushes env port c req w
  obtain ⟨packets, hp, hsent⟩ :=
    send_trace env port c msg ((RMCDispatcher.respond env port c req).after w)
  have hbefore : ∀ e ∈ messages new, IsPush e := fun e he =>
    hpushes e (List.mem_filter.mp he).1 (of_decide_eq_true (List.mem_filter.mp he).2)
  have hsilent : messages packets = [] := messages_silent fun e he hm => by
    have := hp e he
    cases e <;> first | exact this.elim | exact hm.elim
  have hafter : (RMCDispatcher.respond env port c req >>= RMCDispatcher.send env port c).after w =
      (RMCDispatcher.send env port c msg).after ((RMCDispatcher.respond env port c req).after w) := by
    unfold after
    rw [run_bind_ok hrun]
    rfl
  have hold : ((RMCDispatcher.respond env port c req).after w).trace = w.trace ++ new := hnew
  rw [hafter]
  rcases hsent with h | h
  · refine ⟨new ++ (packets ++ [.sent port c msg]), by rw [h, hold, List.append_assoc], ?_⟩
    refine ⟨messages new, msg, hbefore, hans, .inl ?_⟩
    rw [messages_append, messages_append, hsilent]
    rfl
  · refine ⟨new ++ (packets ++ [.sendFailed port c msg]), by rw [h, hold, List.append_assoc], ?_⟩
    refine ⟨messages new, msg, hbefore, hans, .inr ?_⟩
    rw [messages_append, messages_append, hsilent]
    rfl

/-- **One response per request.**  From any state the server comes to, a call of
`on_payload` sends its connection one answer if the body is a request and no message at
all if it is not; whatever else it sends is a push, and the pushes of each dispatcher
have been numbered upwards from the start. -/
theorem one_response (es : List Event) (w : World) (hw : w.trace = []) (port : Port) (c : ConnId)
    (body : Bytes) :
    (∀ p, (pushIds p ((RMCDispatcher.onPayload env port c body).after
      (runs (step env) es w)).trace).Pairwise (· < ·)) ∧
    ∃ new, ((RMCDispatcher.onPayload env port c body).after (runs (step env) es w)).trace =
        (runs (step env) es w).trace ++ new ∧
      match Rmc.decode body with
      | .ok (.request req) => Responded port c req (messages new)
      | _ => messages new = [] := by
  have hstart : Numbered w := by
    refine ⟨fun p => ?_, fun p id hid => ?_⟩
    · rw [hw]
      exact .nil
    · rw [hw] at hid
      cases hid
  have hnow := runs_preserves (step_numbered env) es w hstart
  refine ⟨(onPayload_numbered env port c body _ hnow).increasing, ?_⟩
  have hnone : ∃ new, (runs (step env) es w).trace = (runs (step env) es w).trace ++ new ∧
      messages new = [] := ⟨[], by rw [List.append_nil], rfl⟩
  unfold RMCDispatcher.onPayload
  generalize Rmc.decode body = decoded
  cases decoded with
  | error e => exact hnone
  | ok msg =>
    cases msg with
    | request req => exact respond_send_messages env port c req _
    | ok r => exact hnone
    | error r => exact hnone

/-- A client connects and calls a method that nobody has registered. -/
def connecting : List Event :=
  [.packet .secure (Sample.remote 1) Sample.syn,
   .packet .secure (Sample.remote 1) (Sample.connect Sample.ticketPayload)]

theorem one_response_unknown :
    ∃ new, ((RMCDispatcher.onPayload Sample.env .secure 0 (Sample.body 60 99 [])).after
        (runs (step Sample.env) connecting World.initial)).trace =
        (runs (step Sample.env) connecting World.initial).trace ++ new ∧
      Responded .secure 0 ⟨60, 99, 1, []⟩ (messages new) := by
  have h := (one_response Sample.env connecting World.initial rfl .secure 0 (Sample.body 60 99 [])).2
  have hd : Rmc.decode (Sample.body 60 99 []) = .ok (.request ⟨60, 99, 1, []⟩) := by decide
  rw [hd] at h
  exact h

end Responses
end Ghostbusters
