import GhostbustersServer.Guarantees.Accounts
import GhostbustersServer.Guarantees.Echo
import GhostbustersServer.Guarantees.Handshake
import GhostbustersServer.Guarantees.Streams

/-!
# Signing in

A client gets a ticket on one port and spends it on the other; between the two, and
between the SYN and the CONNECT that carries it, the server handles anything else.

    ticket_issued       RequestTicket, from any state: a cipher the client can open
    identity_final      an established connection is who it is for the rest of any run
    signed_in           issue, SYN, CONNECT: the connection is the ticket's player
-/

namespace Ghostbusters

open Py Act PRUDPServer

namespace SignIn

variable (env : Env)

/-! ## The auth service -/

/-- The parameters of a RequestTicket. -/
def ticketParams (sourcePid targetPid : Nat) : Bytes := wU32 sourcePid ++ wU32 targetPid

theorem parse_ticketParams {sourcePid targetPid : Nat} (hs : sourcePid < 2 ^ 32)
    (ht : targetPid < 2 ^ 32) :
    Reader.parse Authentication.sourceAndTarget (ticketParams sourcePid targetPid) =
      .ok (sourcePid, targetPid) := by
  have hsource := Echo.take_run [] (wU32 sourcePid) (wU32 targetPid) 4 (wU32_length _)
  have htarget := Echo.take_run (wU32 sourcePid) (wU32 targetPid) [] 4 (wU32_length _)
  rw [List.append_nil, wU32_length] at htarget
  rw [List.nil_append, List.length_nil, Nat.zero_add] at hsource
  have hs' : Reader.u32.run ⟨wU32 sourcePid ++ wU32 targetPid, 0⟩ =
      (.ok sourcePid, ⟨wU32 sourcePid ++ wU32 targetPid, 4⟩) := by
    unfold Reader.u32
    rw [run_bind_ok hsource, run_pure, ofLE_wU32 _ hs]
  have ht' : Reader.u32.run ⟨wU32 sourcePid ++ wU32 targetPid, 4⟩ =
      (.ok targetPid, ⟨wU32 sourcePid ++ wU32 targetPid, 4 + 4⟩) := by
    unfold Reader.u32
    rw [run_bind_ok htarget, run_pure, ofLE_wU32 _ ht]
  unfold Reader.parse Authentication.sourceAndTarget ticketParams Reader.of
  rw [run_bind_ok hs', run_bind_ok ht', run_pure]

/-- **Issue.**  From every state the client is answered, and reads in the answer its
session key and a ticket that the secure service opens. -/
theorem ticket_issued (hcr : env.crypto.Lawful) (w : World) (request : Request) (pid : Nat)
    (hpid : pid < 2 ^ 32) (hp : request.params = ticketParams pid authPid) :
    ∃ answer w' cipher opened,
      (Authentication.requestTicket env request).run w = (.ok (.ok answer), w') ∧
      answer.ret = wU32 quazalSuccess ++ wQbuffer cipher ∧
      Kerberos.clientOpen env.crypto pid cipher = .ok opened ∧
      0 < opened.ticket.length ∧ opened.ticket.length < 2 ^ 32 ∧
      Kerberos.extractTicketPayload env.crypto opened.ticket authPid =
        .ok (opened.sessionKey, pid) := by
  let rand : Nat → UInt8 := fun i => env.random (w.randomPos + i)
  have ha : authPid < 2 ^ 32 := by decide
  obtain ⟨ticket, hticket, hlen, hbuild⟩ := @Kerberos.buildKerbCipher_eq env.crypto hcr pid authPid
    Kerberos.requestTicketCipherSize rand hpid ha (by decide) (by decide)
  have hlen' : ticket.length = 58 := hlen
  have hopen := @Kerberos.clientOpen_sealedAnswer env.crypto hcr pid authPid (urandom rand 0 16) ticket
    (urandom_length _ _ _) ha (by omega)
  have hextract : Kerberos.extractTicketPayload env.crypto ticket authPid =
      .ok (urandom rand 0 16, pid) := by
    rw [hticket]
    exact Kerberos.extractTicketPayload_sealedTicket hcr (urandom_length _ _ _) hpid
  have hcipher : Kerberos.buildRequestTicketCipher env.crypto pid authPid rand = _ := hbuild
  have hrun : ∃ w', (Authentication.requestTicket env request).run w = (.ok (.ok
      { proto := Authentication.proto, method := Authentication.methodRequestTicket
        callId := request.callId
        ret := wU32 quazalSuccess ++ wQbuffer
          (Kerberos.sealedAnswer env.crypto pid authPid (urandom rand 0 16) ticket) }), w') := by
    unfold Authentication.requestTicket withParsed Srv.random
    rw [hp, parse_ticketParams hpid ha]
    simp only [run_bind, run_get, run_modify, run_pure, run_ofExcept]
    rw [hcipher]
    exact ⟨_, rfl⟩
  obtain ⟨w', hrun⟩ := hrun
  refine ⟨_, w', _, _, hrun, rfl, hopen, ?_, ?_, hextract⟩
  · show 0 < ticket.length
    omega
  · show ticket.length < 2 ^ 32
    omega

/-! ## Who a connection is -/

/-- What a session can no longer change once it is established. -/
def settled (conn : Connection) : Connection := { conn.identity with state := .established }

/-- A session that is past its handshake. -/
def Past (conn : Connection) : Prop := conn.state = .established ∨ conn.state = .closed

theorem step_settled (e : Event) {w : World} (hw : w.lobby.registry.WellIndexed) {c : ConnId}
    (hc : c < w.nextConn) (hp : Past (w.heap c)) :
    settled ((step env e w).heap c) = settled (w.heap c) ∧ Past ((step env e w).heap c) := by
  have hsame : ∀ {w' : World}, (w'.heap c).identity = (w.heap c).identity →
      settled (w'.heap c) = settled (w.heap c) ∧ Past (w'.heap c) := by
    intro w' h
    refine ⟨congrArg (fun conn : Connection => { conn with state := .established }) h, ?_⟩
    unfold Past
    rw [state_of_identity h]
    exact hp
  -- a connection that is past its handshake takes no CONNECT
  have hne : ∀ {port remote pkt c'}, Connects w port remote pkt c' → c ≠ c' := by
    rintro port remote pkt c' ⟨-, -, hsyn, -⟩ rfl
    rcases hp with h | h
    · cases hsyn.symm.trans h
    · cases hsyn.symm.trans h
  generalize hw' : step env e w = w'
  have hs := step_sessions env e hw
  rw [hw'] at hs
  cases hs with
  | same _ hall _ _ => exact hsame (hall c)
  | opened _ _ hothers _ _ _ => exact hsame (hothers c (Nat.ne_of_lt hc))
  | established hcon _ _ hothers _ _ _ => exact hsame (hothers c (hne hcon))
  | proved hcon _ _ hothers _ _ _ => exact hsame (hothers c (hne hcon))
  | @closed port remote pkt c' _ _ _ _ hothers hclosed _ _ =>
    by_cases heq : c = c'
    · subst heq
      refine ⟨congrArg (fun conn : Connection => { conn with state := .established }) hclosed, ?_⟩
      exact .inr (state_of_identity hclosed)
    · exact hsame (hothers c heq)

/-- **Past its handshake a connection is who it is**: PID, session key, signatures, ids and
address stay over every run, and it never goes back. -/
theorem identity_final (es : List Event) {w : World} (hs : Sound w) {c : ConnId}
    (hc : c < w.nextConn) (hp : Past (w.heap c)) :
    settled ((runs (step env) es w).heap c) = settled (w.heap c) ∧
      Past ((runs (step env) es w).heap c) := by
  have h := @runs_preserves _ _ (step env) (fun w' => Sound w' ∧ c < w'.nextConn ∧
    settled (w'.heap c) = settled (w.heap c) ∧ Past (w'.heap c)) ?_ es w ⟨hs, hc, rfl, hp⟩
  · exact h.2.2
  · rintro e w' ⟨hs', hc', hset, hp'⟩
    obtain ⟨hset', hp''⟩ := step_settled env e hs'.indexed hc' hp'
    exact ⟨step_sound env e hs', Nat.lt_of_lt_of_le hc' (nextConn_step env e hs'),
      hset'.trans hset, hp''⟩

/-! ## From the ticket to the player -/

/-- The CONNECT of a client that has opened its ticket: it echoes a signature and
proves the session key with a check value. -/
structure Presents (opened : Kerberos.OpenedCipher) (pid cid check : Nat) (signature : Bytes)
    (pkt : PRUDPPacket) : Prop where
  type : pkt.type = .connect
  signature : pkt.signature = signature
  payload : pkt.payload ≠ []
  opens : Payload.open? env pkt.payload = some
    (Kerberos.connectPayload env.crypto opened.sessionKey opened.ticket pid cid check)

/-- The connection is the player's, past its handshake and under its session key. -/
structure SignedIn (c : ConnId) (pid : Nat) (sessionKey : Bytes) (w : World) : Prop where
  past : Past (w.heap c)
  userPid : (w.heap c).userPid = pid
  sessionKey : (w.heap c).sessionKey = sessionKey

theorem SignedIn.of_core {c : ConnId} {pid : Nat} {sessionKey : Bytes} {w w' : World}
    (h : SignedIn c pid sessionKey w) (hcore : (w'.heap c).core = (w.heap c).core) :
    SignedIn c pid sessionKey w' where
  past := by
    unfold Past
    rw [show (w'.heap c).state = (w.heap c).state from (congrArg Connection.state hcore :)]
    exact h.past
  userPid := (congrArg Connection.userPid hcore :).trans h.userPid
  sessionKey := (congrArg Connection.sessionKey hcore :).trans h.sessionKey

theorem SignedIn.runs {c : ConnId} {pid : Nat} {sessionKey : Bytes} {w : World}
    (h : SignedIn c pid sessionKey w) (hs : Sound w) (hc : c < w.nextConn) (es : List Event) :
    SignedIn c pid sessionKey (Py.runs (step env) es w) := by
  obtain ⟨hset, hpast⟩ := identity_final env es hs hc h.past
  exact ⟨hpast, (congrArg Connection.userPid hset :).trans h.userPid,
    (congrArg Connection.sessionKey hset :).trans h.sessionKey⟩

/-- A SYN leaves a connection that waits for a CONNECT with the signature it was given. -/
theorem step_syn_waits (w : World) (port : Port) (remote : Remote) {syn : PRUDPPacket}
    (ht : syn.type = .syn) :
    (((step env (.packet port remote syn) w).connections port).get? remote = some w.nextConn) ∧
      ((step env (.packet port remote syn) w).heap w.nextConn).state = .synRecv := by
  have hq := (handleSyn_spec env port remote w).toQuiet
  have hstep : step env (.packet port remote syn) w = (handleSyn env port remote).after w := by
    unfold step handleEvent handle after
    rw [run_get_bind]
    dsimp only
    rw [ht]
  refine ⟨(Isolation.step_syn env w port remote ht).1, ?_⟩
  rw [hstep]
  refine (congrArg Connection.state (hq.core w.nextConn) :).trans ?_
  show ((w.synReceived env port remote).heap w.nextConn).state = _
  simp [World.synReceived]

section
variable {opened : Kerberos.OpenedCipher} {pid cid check : Nat} {pkt : PRUDPPacket}

/-- **Acceptance**, in any state in which the connection waits. -/
theorem connect_accepted (hcr : env.crypto.Lawful) (hpid : pid < 2 ^ 32) (hcid : cid < 2 ^ 32)
    (hcheck : check < 2 ^ 32) (hpos : 0 < opened.ticket.length)
    (hlt : opened.ticket.length < 2 ^ 32)
    (hticket : Kerberos.extractTicketPayload env.crypto opened.ticket authPid =
      .ok (opened.sessionKey, pid)) {w : World} {remote : Remote} {c : ConnId}
    (hlisted : (w.connections .secure).get? remote = some c) (hwait : (w.heap c).state = .synRecv)
    (hpkt : Presents env opened pid cid check (w.heap c).serverConnSig pkt) :
    SignedIn c pid opened.sessionKey (step env (.packet .secure remote pkt) w) ∧
      (env.packetEncodes (connectAckPacket env (w.established c pkt) pkt.packetId
          (Kerberos.buildConnectAckToken check)) = true →
        .sendto (w.heap c).remote (connectAckPacket env
          ((step env (.packet .secure remote pkt) w).heap c) pkt.packetId
          (Kerberos.buildConnectAckToken check)) ∈
        (step env (.packet .secure remote pkt) w).trace) := by
  have hproven : proven env .secure pkt = some (opened.sessionKey, pid, check) := by
    unfold proven
    rw [if_pos ⟨rfl, hpkt.payload⟩, hpkt.opens]
    dsimp only
    rw [Kerberos.verifyConnect_connectPayload hcr hpos hlt hpid hcid hcheck hticket]
    rfl
  have htoken : connectToken env .secure pkt = Kerberos.buildConnectAckToken check := by
    unfold connectToken
    rw [hproven]
  constructor
  · have hq := (handleConnect_spec env .secure pkt c w hwait hpkt.signature).toQuiet.core c
    have hheap : (connected env w .secure pkt c).heap c =
        { w.established c pkt with sessionKey := opened.sessionKey, userPid := pid } := by
      rw [Handshake.heap_connected, hproven]
    have hstep := step_packet env hlisted pkt
    rw [hpkt.type] at hstep
    rw [hstep]
    refine SignedIn.of_core (w := connected env w .secure pkt c) ⟨?_, ?_, ?_⟩ hq
    · exact .inl (by rw [hheap]; rfl)
    · rw [hheap]
    · rw [hheap]
  · intro henc
    rw [← htoken] at henc
    have hans := @Handshake.answers_of_awaited env _ _ _ _ _ _
      ⟨rfl, hpkt.type, hlisted, hpkt.signature⟩ hwait henc
    have hmem := (hans.proven _ _ _ hproven).1
    unfold Handshake.added at hmem
    exact List.mem_of_mem_drop hmem

end

/-- **Signing in.**  Whatever state a ticket is issued in, and whatever the server handles
for others behind the client's SYN: the CONNECT that presents the ticket makes the
connection the player's, is answered with the check value plus one, and the
connection is the player's for the rest of any run. -/
theorem signed_in (hcr : env.crypto.Lawful) (w0 : World) (request : Request) (pid : Nat)
    (hpid : pid < 2 ^ 32) (hp : request.params = ticketParams pid authPid) :
    ∃ answer w0' cipher opened,
      (Authentication.requestTicket env request).run w0 = (.ok (.ok answer), w0') ∧
      answer.ret = wU32 quazalSuccess ++ wQbuffer cipher ∧
      Kerberos.clientOpen env.crypto pid cipher = .ok opened ∧
      ∀ (w : World) (remote : Remote) (syn : PRUDPPacket) (others : List Event), Sound w →
        syn.type = .syn → (∀ e ∈ others, own .secure remote e = none) →
        ∀ w1, w1 = Py.runs (step env) others (step env (.packet .secure remote syn) w) →
        (w1.connections .secure).get? remote = some w.nextConn →
        ∀ pkt cid check, cid < 2 ^ 32 → check < 2 ^ 32 →
          Presents env opened pid cid check (urandom (fun i => env.random (w.randomPos + i)) 0 4) pkt →
          ∀ w2, w2 = step env (.packet .secure remote pkt) w1 →
            (env.packetEncodes (connectAckPacket env (w1.established w.nextConn pkt) pkt.packetId
                (leBytes 4 4 ++ leBytes 4 ((check + 1) % 2 ^ 32))) = true →
              .sendto remote (connectAckPacket env (w2.heap w.nextConn) pkt.packetId
                (leBytes 4 4 ++ leBytes 4 ((check + 1) % 2 ^ 32))) ∈ w2.trace) ∧
            ∀ es, SignedIn w.nextConn pid opened.sessionKey (Py.runs (step env) es w2) := by
  obtain ⟨answer, w0', cipher, opened, hrun, hret, hopen, hpos, hlt, hticket⟩ :=
    ticket_issued env hcr w0 request pid hpid hp
  refine ⟨answer, w0', cipher, opened, hrun, hret, hopen, ?_⟩
  rintro w remote syn others hs hsyn hothers w1 rfl hlisted pkt cid check hcid hcheck hpkt w2 rfl
  let w' := step env (.packet .secure remote syn) w
  have hs' : Sound w' := step_sound env _ hs
  have hs1 := runs_preserves (fun e _ h => step_sound env e h) others _ hs'
  obtain ⟨hlisted', hwait'⟩ := step_syn_waits env w .secure remote hsyn
  have hsig' := (Isolation.step_syn env w .secure remote hsyn).2
  -- the others leave the connection waiting
  have hseen := Streams.seen_runs env hothers (placed_of_listed hs' hlisted')
  have hrecv := congrArg Prod.fst hseen
  have hwait := (congrArg Streams.Receiver.state hrecv :).trans hwait'
  have hsig := (congrArg Streams.Receiver.serverConnSig hrecv :).trans hsig'
  rw [← show _ = _ from hsig] at hpkt
  obtain ⟨hin, hack⟩ := connect_accepted env hcr hpid hcid hcheck hpos hlt hticket hlisted hwait hpkt
  refine ⟨?_, fun es => ?_⟩
  · intro henc
    have hmem := hack henc
    rw [(hs1.home .secure remote _ hlisted).2] at hmem
    exact hmem
  · have hc := Nat.lt_of_lt_of_le (hs1.lt .secure remote _ hlisted)
      (nextConn_step env (.packet .secure remote pkt) hs1)
    exact hin.runs env (step_sound env _ hs1) hc es

/-- The player of PID 10000, while another client opens a session. -/
theorem signed_in_player : ∃ (opened : Kerberos.OpenedCipher) (pkt : PRUDPPacket), SignedIn 0 10000 opened.sessionKey
    (Py.runs (step Sample.env) [.elapse 1, .packet .secure (Sample.remote 1) pkt]
      (step Sample.env (.packet .secure (Sample.remote 1) pkt)
        (Py.runs (step Sample.env) [.packet .auth (Sample.remote 2) Sample.syn]
          (step Sample.env (.packet .secure (Sample.remote 1) Sample.syn) (Sample.world []))))) := by
  obtain ⟨-, -, -, opened, -, -, -, h⟩ := signed_in Sample.env Sample.env_lawful World.initial
    { proto := 10, method := 3, callId := 1, params := ticketParams 10000 authPid } 10000 (by decide)
    rfl
  let pkt : PRUDPPacket := Sample.connect (Payload.obfuscate Sample.env
    (0 :: Kerberos.connectPayload Sample.env.crypto opened.sessionKey opened.ticket 10000 7 8))
  have hsig : [0, 1, 2, 3] =
      urandom (fun i => Sample.env.random ((Sample.world []).randomPos + i)) 0 4 := by decide
  have hpkt : Presents Sample.env opened 10000 7 8
      (urandom (fun i => Sample.env.random ((Sample.world []).randomPos + i)) 0 4) pkt :=
    ⟨rfl, hsig, Payload.obfuscate_ne_nil Sample.env Sample.env_lawful _ _,
      Payload.open?_obfuscate Sample.env Sample.env_lawful _⟩
  refine ⟨opened, pkt, ?_⟩
  exact (h (Sample.world []) (Sample.remote 1) Sample.syn
    [.packet .auth (Sample.remote 2) Sample.syn] (Sample.world_sound []) rfl (by decide) _ rfl
    (by decide +kernel) pkt 7 8 (by decide) (by decide) hpkt _ rfl).2 _

end SignIn
end Ghostbusters
