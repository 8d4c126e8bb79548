import GhostbustersServer.Guarantees.Rejoin
import GhostbustersServer.Guarantees.Settings

/-!
# JoinGathering, end to end

    Refused             what a join is turned down for
    Welcomed            what becomes of one that is not: the roster, the answer, the pushes
    sections            the two lists of the answer, read back
    join_end_to_end     every join is one or the other
-/

namespace Ghostbusters

open Py PRUDPServer

variable (env : Env)

namespace Join

/-! ## The tests -/

def Refused (w : World) (req : Request) : Prop :=
  req.params.length < 4 ∨ w.lobby.get (leadingGid req) = none ∨
    ∃ g, w.lobby.get (leadingGid req) = some g ∧
      (Game.hostUrls w g = [] ∨ g.participants.length = 4 ∨ g.publicRemaining = 0)

theorem admitted_of_refused {w : World} (hb : Offers.Bounded w) {req : Request} (h : Refused w req)
    (pid : Nat) : Game.admitted w pid req = none := by
  rcases h with hlen | hnone | ⟨g, hg, hurls | hfull | hslot⟩
  · exact if_pos hlen
  · unfold Game.admitted
    rw [hnone]
    exact ite_self _
  · cases hadm : Game.admitted w pid req with
    | none => rfl
    | some g' =>
      obtain ⟨hget, hu, -, -⟩ := Game.admitted_eq_some hadm
      cases hg.symm.trans hget
      exact absurd hurls hu
  · cases hadm : Game.admitted w pid req with
    | none => rfl
    | some g' =>
      obtain ⟨hget, -, hf, -⟩ := Game.admitted_eq_some hadm
      cases hg.symm.trans hget
      unfold Gathering.isFull at hf
      rw [hfull] at hf
      cases hf
  · exact Rejoin.not_admitted_of_no_slot hb hg hslot

theorem admitted_of_not_refused {w : World} (hb : Offers.Bounded w) {req : Request} {g : Gathering}
    (hg : w.lobby.get (leadingGid req) = some g) (h : ¬ Refused w req) (pid : Nat) :
    Game.admitted w pid req = some g := by
  unfold Refused at h
  simp only [hg, not_or, not_exists, not_and] at h
  obtain ⟨hlen, -, hopen⟩ := h
  obtain ⟨hurls, hfour, hslot⟩ := hopen g rfl
  have hcap := (hb.capped _ g hg).four
  have hroom : g.isFull = false := by
    unfold Gathering.isFull
    unfold maxParticipantsPerGathering at hcap ⊢
    exact decide_eq_false (by omega)
  rw [Offers.admitted_of_slot (Nat.not_lt.mp hlen) hg (Nat.pos_of_ne_zero hslot), if_neg]
  rw [hroom]
  exact not_or.mpr ⟨hurls, Bool.false_ne_true⟩

/-! ## The roster -/

/-- The entry of a player that joins. -/
def joiner (w : World) (c : ConnId) : Participant :=
  { pid := (w.heap c).userPid, displayName := pidName (w.heap c).userPid, remote := (w.heap c).remote,
    conn := some c }

theorem participants_joined {w : World} {c : ConnId} {g : Gathering} (h : (w.heap c).userPid ∉ g.pids) :
    (w.joined c g).participants = g.participants ++ [joiner w c] := by
  have hany : ¬ (g.participants.any fun p => p.pid == (w.heap c).userPid) = true := by
    rw [List.any_eq_true]
    rintro ⟨p, hp, hpid⟩
    exact h (List.mem_map.mpr ⟨p, hp, by simpa using hpid⟩)
  unfold World.joined GatheringRegistry.joined
  exact if_neg hany

/-- The state of a player is 16 bytes, from the start and for good. -/
def AllStates (l : Lobby) : Prop :=
  ∀ k g, l.get k = some g → ∀ p ∈ g.participants, p.state.length = 16

theorem allStates_apply (op : LobbyOp) {l : Lobby} (hi : l.registry.WellIndexed) (h : AllStates l) :
    AllStates (op.apply l) := by
  intro k g' hk p hp
  rcases op.back hi hk with ⟨g, hg, -, hps⟩ | ⟨pid, remote, raw, conn, -, -, rfl⟩
  swap
  · rw [List.mem_singleton.mp hp]
    rfl
  generalize g'.participants = qs at hps hp
  cases hps with
  | kept hs => exact h k g hg p (hs.subset hp)
  | joined _ =>
    unfold GatheringRegistry.joined at hp
    split at hp
    · rcases GatheringRegistry.mem_refresh hp with hp | ⟨q, hq, rfl⟩
      · exact h k g hg p hp
      · exact h k g hg q (List.mem_of_find?_eq_some hq)
    · rcases List.mem_append.mp hp with hp | hp
      · exact h k g hg p hp
      · rw [List.mem_singleton.mp hp]
        rfl

/-! ## The answer -/

/-- One player as the answer lists it: PID, name with its NUL, state. -/
def participant : Cursor (Nat × Bytes × Bytes) :=
  (Cursor.int 4).bind fun pid => Browse.qString.bind fun name => (Cursor.bytes 16).bind fun state =>
    Cursor.pure (pid, name, state)

/-- The URLs, then the players. -/
def sections : Cursor (List Bytes × List (Nat × Bytes × Bytes)) :=
  Browse.qStrings.bind fun urls => (Cursor.int 4).bind fun n => (participant.many n).bind fun roster =>
    Cursor.pure (urls, roster)

def head (urls : List Str) (ps : List Participant) : Bytes :=
  wU32 urls.length ++ urls.flatMap wQstring ++ wU32 ps.length ++ ps.flatMap Game.participantBlock

/-- Texts and counts fit their fields. -/
structure Sized (urls : List Str) (ps : List Participant) : Prop where
  urlCount : urls.length < 2 ^ 32
  url : ∀ url ∈ urls, (utf8Encode url).length ≤ 65534
  playerCount : ps.length < 2 ^ 32
  name : ∀ p ∈ ps, (utf8Encode p.displayName).length ≤ 65534

theorem reads_wQstring {s : Str} (h : (utf8Encode s).length ≤ 65534) :
    Reads Browse.qString (wQstring s) (utf8Encode s ++ [0]) := by
  have hlen : (utf8Encode s ++ [0]).length = (utf8Encode s).length + 1 := by simp
  refine Browse.reads_renderUrl (Browse.renderUrl_eq_ok.mpr ⟨by omega, ?_⟩)
  unfold wQstring wU16
  dsimp only
  rw [hlen, Nat.mod_eq_of_lt (by omega)]

theorem reads_participant {p : Participant} (hpid : p.pid < 2 ^ 32)
    (hname : (utf8Encode p.displayName).length ≤ 65534) (hstate : p.state.length = 16) :
    Reads participant (Game.participantBlock p) (p.pid, utf8Encode p.displayName ++ [0], p.state) := by
  have hbytes := Reads.bytes p.state
  rw [hstate] at hbytes
  unfold participant Game.participantBlock
  rw [List.append_assoc]
  exact (reads_wU32 hpid).bind ((reads_wQstring hname).bind (hbytes.bind_pure fun state =>
    (p.pid, utf8Encode p.displayName ++ [0], state)))

/-- **The two lists are read back.** -/
theorem reads_head {urls : List Str} {ps : List Participant} (h : Sized urls ps)
    (hpids : ∀ p ∈ ps, p.pid < 2 ^ 32) (hstates : ∀ p ∈ ps, p.state.length = 16) :
    Reads sections (head urls ps) (urls.map fun url => utf8Encode url ++ [0],
      ps.map fun p => (p.pid, utf8Encode p.displayName ++ [0], p.state)) := by
  have hurls : Reads Browse.qStrings (wU32 urls.length ++ urls.flatMap wQstring)
      (urls.map fun url => utf8Encode url ++ [0]) :=
    (reads_wU32 h.urlCount).bind (Reads.many_map fun url hurl => reads_wQstring (h.url url hurl))
  have hplayers := Reads.many_map fun p hp => reads_participant (hpids p hp) (h.name p hp) (hstates p hp)
  unfold sections head
  rw [List.append_assoc]
  exact hurls.bind ((reads_wU32 h.playerCount).bind (hplayers.bind_pure fun roster =>
    (urls.map fun url => utf8Encode url ++ [0], roster)))

/-- The answer to a joiner that is not in the old roster. -/
theorem joinReply_fresh {w : World} {c : ConnId} {g : Gathering} (h : (w.heap c).userPid ∉ g.pids)
    {urls : List Str} {body : Bytes}
    (hbody : Game.joinReply urls (w.joined c g) (w.heap c).userPid = .ok body) :
    ∃ embed, g.renderJoinEmbed (g.participants.length + 1) = .ok embed ∧
      body = head urls g.participants ++ embed := by
  have hps := participants_joined h
  have hold : ((w.joined c g).participants.filter fun p => p.pid != (w.heap c).userPid) =
      g.participants := by
    rw [hps, List.filter_append, List.filter_eq_self.mpr fun p hp => ?_]
    · have hjoiner : [joiner w c].filter (fun p => p.pid != (w.heap c).userPid) = [] := by
        simp [joiner]
      rw [hjoiner, List.append_nil]
    · exact bne_iff_ne.mpr fun heq => h (List.mem_map.mpr ⟨p, hp, heq⟩)
  obtain ⟨embed, hembed, hbody⟩ := Act.ok_of_bind hbody
  refine ⟨embed, ?_, ?_⟩
  · rw [hps, List.length_append] at hembed
    exact hembed
  · cases hbody
    unfold head
    rw [hold]

/-! ## The pushes -/

/-- An INSERT of a player, with a URL of it. -/
def insertion (k : ConnId) (pid gid : Nat) (url : Str) : Push :=
  .event k (Notification.buildNotificationEvent pid Notification.eventParticipation pid gid url)

/-- A probe to the host for each URL of the joiner; the joiner to every old player whose remote
is in the table; every player, the joiner included, to the joiner. -/
def pushes (w : World) (port : Port) (c : ConnId) (g : Gathering) : List Push :=
  (match g.hostConn with
    | some host => (w.heap c).stationUrls.map fun url =>
      ⟨host, NatTraversal.proto, NatTraversal.methodInitiateProbe, wQstring url⟩
    | none => []) ++
  (g.participants.filterMap fun p => ((w.connections port).get? p.remote).map fun k =>
    insertion k (w.heap c).userPid g.id (Notification.reachableUrlFor w (joiner w c) p.remote)) ++
  (match (w.connections port).get? (w.heap c).remote with
    | some k => (g.participants ++ [joiner w c]).map fun p =>
      insertion k p.pid g.id (Notification.reachableUrlFor w p (w.heap c).remote)
    | none => [])

theorem find?_joiner {w : World} {c : ConnId} {g : Gathering} (h : (w.heap c).userPid ∉ g.pids) :
    ((g.participants ++ [joiner w c]).find? fun p => p.pid == (w.heap c).userPid) =
      some (joiner w c) := by
  have hnone : (g.participants.find? fun p => p.pid == (w.heap c).userPid) = none := by
    rw [List.find?_eq_none]
    intro p hp hpid
    exact h (List.mem_map.mpr ⟨p, hp, by simpa using hpid⟩)
  rw [List.find?_append, hnone]
  simp [joiner]

theorem joinPushes_fresh {w : World} {port : Port} {c : ConnId} {g : Gathering}
    (h : (w.heap c).userPid ∉ g.pids) : joinPushes w port c g = pushes w port c g := by
  have hps := participants_joined h
  have hfind := find?_joiner h
  have hbroadcast : broadcastPushes w port (w.joined c g).participants (w.heap c).userPid
      Notification.eventParticipation g.id = g.participants.filterMap fun p =>
        ((w.connections port).get? p.remote).map fun k => insertion k (w.heap c).userPid g.id
          (Notification.reachableUrlFor w (joiner w c) p.remote) := by
    unfold broadcastPushes
    rw [hps]
    dsimp only
    rw [hfind, List.filterMap_append]
    have hself : [joiner w c].filterMap (fun p => if p.pid = (w.heap c).userPid then none else
        ((w.connections port).get? p.remote).map fun k => Push.event k
          (Notification.buildNotificationEvent (w.heap c).userPid Notification.eventParticipation
            (w.heap c).userPid g.id (Notification.eventText w Notification.eventParticipation
              (some (joiner w c)) p))) = [] := by
      simp [joiner]
    rw [hself, List.append_nil]
    refine List.filterMap_congr fun p hp => ?_
    rw [if_neg fun heq => h (List.mem_map.mpr ⟨p, hp, heq⟩)]
    rfl
  have hbackfill : backfillPushes w port (w.joined c g) (w.heap c).userPid =
      match (w.connections port).get? (w.heap c).remote with
      | some k => (g.participants ++ [joiner w c]).map fun p =>
        insertion k p.pid g.id (Notification.reachableUrlFor w p (w.heap c).remote)
      | none => [] := by
    unfold backfillPushes
    rw [hps, hfind]
    dsimp only
    rw [show (joiner w c).remote = (w.heap c).remote from rfl]
    cases (w.connections port).get? (w.heap c).remote <;> rfl
  unfold joinPushes welcomePushes pushes
  exact congrArg₂ _ (congrArg₂ _ rfl hbroadcast) hbackfill

/-! ## The join -/

/-- What becomes of a join of `g` by a player that is not listed in it. -/
structure Welcomed (port : Port) (c : ConnId) (req : Request) (g : Gathering) (w w' : World) : Prop where
  roster : w'.lobby.get g.id = some { g with participants := g.participants ++ [joiner w c] }
  others : ∀ k, k ≠ g.id → w'.lobby.get k = w.lobby.get k
  /-- the two lists, then the struct with everyone counted -/
  answer : ∃ embed, w'.answer = some (Game.ok req (head (Game.hostUrls w g) g.participants ++ embed)) ∧
    g.renderJoinEmbed (g.participants.length + 1) = .ok embed ∧
    (Browse.settingsEnd g.rawParams ≤ g.rawParams.length →
      Settings.Rendered g (g.participants.length + 1) embed)
  lists : Sized (Game.hostUrls w g) g.participants →
    Reads sections (head (Game.hostUrls w g) g.participants)
      ((Game.hostUrls w g).map fun url => utf8Encode url ++ [0],
        g.participants.map fun p => (p.pid, utf8Encode p.displayName ++ [0], p.state))
  sent : Sends w w' (Push.numbered port (w.serverCallId port) (pushes w port c g))

section
variable {e : Event} {w : World} {port : Port} {c : ConnId} {req : Request}
  (hb : Offers.Bounded w) (hreq : requestOf env w e = some (port, c, req)) (h1 : req.proto = 60)
  (h2 : req.method = 5)
include hb hreq h1 h2

/-- **A join that is refused.** -/
theorem refused (h : Refused w req) : (step env e w).answer = some (Game.sessionVoid req) ∧
    (step env e w).lobby = w.lobby ∧ Sends w (step env e w) [] := by
  have hadm := admitted_of_refused hb h (w.heap c).userPid
  refine ⟨join_answer_of_refused env hreq h1 h2 hadm, ?_, ?_⟩
  · obtain ⟨op, hp, hop⟩ := step_performs env hreq hb.indexed
    rw [hop]
    cases hp with
    | idle => rfl
    | create _ h2 => omega
    | join g _ _ hin => cases hadm.symm.trans hin
    | leave _ h2 => omega
    | destroy _ h2 => omega
    | close _ h2 => omega
    | reopen _ h2 => omega
    | report _ _ h2 => omega
    | cancel _ _ h2 => omega
  · obtain ⟨body, w1, hr, hsends⟩ := step_sends env hreq (joinHandler env h1 h2)
    refine hsends [] (.of_grows ?_)
    have hadm1 : Game.admitted w1 (w1.heap c).userPid req = none := by
      rw [hr.userPid, admitted_congr hr.lobby hr.stationUrls]
      exact hadm
    unfold Act.after
    rw [Game.joinGathering_refused env (w1.logged (.onPayload port c body)) port c req hadm1]
    exact LogGrows.refl _ _

/-- **A join that is let in**, of a player that is not listed. -/
theorem welcomed (hstates : AllStates w.lobby) {g : Gathering}
    (hg : w.lobby.get (leadingGid req) = some g) (hopen : ¬ Refused w req)
    (hnew : (w.heap c).userPid ∉ g.pids)
    (hgo : AllGo env w.heap (w.serverCallId port) (pushes w port c g) = true) :
    Welcomed port c req g w (step env e w) := by
  have hadm := admitted_of_not_refused hb hg hopen (w.heap c).userPid
  have hget : w.lobby.get g.id = some g := Game.get_of_admitted hb.indexed hadm
  have hgid : leadingGid req = g.id := (hb.indexed.ids _ g hg).symm
  have hid : g.id < 2 ^ 32 := by
    rw [← hgid]
    exact leadingGid_lt req
  have howner : g.ownerPid < 2 ^ 32 := (hb.players _ g hg).1
  have hfour := (hb.capped _ g hg).four
  unfold maxParticipantsPerGathering at hfour
  have hcount := @length_joined_lt w c g hfour
  rw [← joinPushes_fresh hnew] at hgo
  -- the handler, from whatever state the packet layer leaves
  have hrun : ∀ (w1 : World) (body : Bytes), Received w w1 → ∃ embed,
      g.renderJoinEmbed (g.participants.length + 1) = .ok embed ∧
      ((Game.joinGathering env port c req).run (w1.logged (.onPayload port c body))).1 =
        .ok (Game.ok req (head (Game.hostUrls w g) g.participants ++ embed)) ∧
      Sends (w1.logged (.onPayload port c body))
        ((Game.joinGathering env port c req).after (w1.logged (.onPayload port c body)))
        (Push.numbered port (w.serverCallId port) (pushes w port c g)) := by
    intro w1 body hr
    have hadm1 : Game.admitted w1 (w1.heap c).userPid req = some g := by
      rw [hr.userPid, admitted_congr hr.lobby hr.stationUrls]
      exact hadm
    have hjoined : (w1.logged (.onPayload port c body)).joined c g = w.joined c g := joined_congr hr c g
    have hpushes : joinPushes (w1.logged (.onPayload port c body)) port c g = joinPushes w port c g :=
      joinPushes_congr hr port c g
    have hcall : w1.serverCallId = w.serverCallId := by rw [hr.rest]
    obtain ⟨reply, hreply, hans, hsends⟩ := @Game.joinGathering_sends env
      (w1.logged (.onPayload port c body)) port c req g hadm1
      ((congrArg (fun l => l.get g.id) hr.lobby).trans hget) hid howner (by rw [hjoined]; exact hcount)
      (by rw [hpushes]; exact (allGo_received env hr port _).trans hgo)
    have hurls : Game.hostUrls (w1.logged (.onPayload port c body)) g = Game.hostUrls w g :=
      hostUrls_congr hr.stationUrls g
    have hpid : ((w1.logged (.onPayload port c body)).heap c).userPid = (w.heap c).userPid :=
      hr.userPid c
    rw [hurls, hjoined, hpid] at hreply
    obtain ⟨embed, hembed, rfl⟩ := joinReply_fresh hnew hreply
    refine ⟨embed, hembed, hans, ?_⟩
    rw [hpushes, joinPushes_fresh hnew] at hsends
    rw [← hcall]
    exact hsends
  refine ⟨?_, fun k hk => ?_, ?_, fun hsized => ?_, ?_⟩
  · rw [get_step_join env hreq hb.indexed h1 h2 hadm]
    exact congrArg (fun ps => some { g with participants := ps }) (participants_joined hnew)
  · rw [step_join env hreq h1 h2 hadm]
    exact Lobby.get_apply_of_ne rfl hk w.lobby
  · obtain ⟨body, w1, hr, hans⟩ := step_answer env hreq (joinHandler env h1 h2)
    obtain ⟨embed, hembed, hreply, -⟩ := hrun w1 body hr
    refine ⟨embed, ?_, hembed, fun hfull => ?_⟩
    · rw [hans, hreply]
      rfl
    · obtain ⟨s, hs, hrendered⟩ := @Settings.renderStruct_rendered g (g.participants.length + 1) hid
        howner hfull (by omega)
      cases hembed.symm.trans hs
      exact hrendered
  · exact reads_head hsized (hb.players _ g hg).2 (hstates _ g hg)
  · obtain ⟨body, w1, hr, hsends⟩ := step_sends env hreq (joinHandler env h1 h2)
    obtain ⟨embed, -, -, hs⟩ := hrun w1 body hr
    exact hsends _ hs

end

theorem runs_states {w0 : World} (hl : w0.lobby = Lobby.empty) (es : List Event) :
    AllStates (runs (step env) es w0).lobby := by
  refine (runs_lobby env (fun w e w' op hi _ h => allStates_apply op hi h) es w0 ?_ ?_).2
  · rw [hl]
    exact GatheringRegistry.WellIndexed.empty
  · rw [hl]
    exact fun k g hg => nomatch hg

/-- **JoinGathering**, in every state of every run from a server without lobbies: a join is
refused and nothing comes of it, or it is let in and the roster, the answer and the pushes are
those of the lobby with the player at its end. -/
theorem join_end_to_end (w0 : World) (hl : w0.lobby = Lobby.empty)
    (hp : ∀ c, (w0.heap c).userPid < 2 ^ 32) (es : List Event) (w : World)
    (hw : w = runs (step env) es w0) (e : Event) (port : Port) (c : ConnId) (req : Request)
    (hreq : requestOf env w e = some (port, c, req)) (hproto : req.proto = 60)
    (hmethod : req.method = 5) :
    (Refused w req → (step env e w).answer = some (Game.sessionVoid req) ∧
      (step env e w).lobby = w.lobby ∧ Sends w (step env e w) []) ∧
    ∀ g, w.lobby.get (leadingGid req) = some g → ¬ Refused w req → (w.heap c).userPid ∉ g.pids →
      AllGo env w.heap (w.serverCallId port) (pushes w port c g) = true →
        Welcomed port c req g w (step env e w) := by
  subst hw
  have hb := Offers.runs_bounded env hl hp es
  exact ⟨fun h => refused env hb hreq hproto hmethod h, fun g hg hopen hnew hgo =>
    welcomed env hb hreq hproto hmethod (runs_states env hl es) hg hopen hnew hgo⟩

/-! ## A guest -/

/-- A lobby of a host alone, with its settings. -/
def hosted : World := runs (step Sample.env) Browse.blobCreated (Offers.connected true)

theorem join_end_to_end_guest : ∃ g, hosted.lobby.get 10000 = some g ∧ g.pids = [10000] ∧
    Welcomed .secure 1 Offers.joinRequest g hosted (step Sample.env Offers.join hosted) := by
  have hreq : requestOf Sample.env hosted Offers.join = some (.secure, 1, Offers.joinRequest) := by
    decide +kernel
  have hlead : leadingGid Offers.joinRequest = 10000 := by decide +kernel
  have hpid : (hosted.heap 1).userPid = 10001 := by decide +kernel
  have hview : (hosted.lobby.get 10000).map (fun g => (g.pids, Game.hostUrls hosted g,
      g.publicRemaining, AllGo Sample.env hosted.heap (hosted.serverCallId .secure)
        (pushes hosted .secure 1 g))) =
      some ([10000], ["prudp:/address=10.0.0.1".toList], 3, true) := by
    decide +kernel
  obtain ⟨g, hg, hv⟩ := Option.map_eq_some_iff.mp hview
  simp only [Prod.mk.injEq] at hv
  obtain ⟨hpids, hurls, hslot, hgo⟩ := hv
  have hone : g.participants.length = 1 := by
    have hlen := congrArg List.length hpids
    unfold Gathering.pids at hlen
    rwa [List.length_map] at hlen
  have hopen : ¬ Refused hosted Offers.joinRequest := by
    rintro (hlen | hnone | ⟨g', hg', hbad⟩)
    · exact absurd hlen (by decide)
    · rw [hlead, hg] at hnone
      cases hnone
    · rw [hlead, hg] at hg'
      cases hg'
      rw [hurls, hone, hslot] at hbad
      simp at hbad
  refine ⟨g, hg, hpids, ?_⟩
  refine (join_end_to_end Sample.env (Offers.connected true) rfl (Offers.connected_pid true)
    Browse.blobCreated hosted rfl Offers.join .secure 1 Offers.joinRequest hreq rfl rfl).2 g ?_ hopen ?_
    hgo
  · rw [hlead]
    exact hg
  · rw [hpid, hpids]
    decide

end Join
end Ghostbusters
