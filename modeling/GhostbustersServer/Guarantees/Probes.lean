import GhostbustersServer.Guarantees.Pushed
import GhostbustersServer.Guarantees.Urls
import GhostbustersServer.Py.Since

/-!
# Introducing two consoles

A console that has joined a lobby knows the URLs of its host, and names some of them to the
server.  The server looks for the connection that registered them and asks either console to
probe the URLs of the other.

    registered w e c     the URLs that an event gives a connection
    urls_history         a connection has the URLs of its last RegisterEx
    introduced           the URLs of a join's host lead to the host, for as long as it does
                         not register again
-/

namespace Ghostbusters
namespace Probes

open Py Act PRUDPServer SecureConnection Pushed

/-! ## A registration -/

/-- The id that a connection has, or is about to draw. -/
def idOf (w : World) (c : ConnId) : Nat :=
  if (w.heap c).rvConnectionId ≠ 0 then (w.heap c).rvConnectionId else w.nextConnectionId

/-- What the server makes of the URLs of a client: it puts its id behind each, and adds the
endpoint it has observed. -/
def registration (w : World) (c : ConnId) (urls : List Str) : List Str :=
  urls.map (fun u => withRvcid (stripSid u) (idOf w c)) ++
    [withRvcid (publicUrl (w.heap c).remote) (idOf w c)]

/-- What drawing an id changes. -/
theorem connectionId_run (c : ConnId) (w : World) :
    ∃ w1, (connectionId c).run w = (.ok (idOf w c), w1) ∧ w1.nextConn = w.nextConn ∧
      ∀ k, (w1.heap k).remote = (w.heap k).remote ∧ (w1.heap k).stationUrls = (w.heap k).stationUrls := by
  unfold connectionId idOf
  by_cases h : (w.heap c).rvConnectionId ≠ 0
  · refine ⟨w, ?_, rfl, fun _ => ⟨rfl, rfl⟩⟩
    rw [if_pos h]
    unfold Srv.conn
    simp only [run_bind, run_get, run_pure, if_pos h]
  · let w1 : World := { w with
      nextConnectionId := w.nextConnectionId + 1
      heap := Function.update w.heap c { w.heap c with rvConnectionId := w.nextConnectionId } }
    refine ⟨w1, ?_, rfl, fun k => ?_⟩
    · rw [if_neg h]
      unfold Srv.conn
      simp only [run_bind, run_get, run_pure, if_neg h]
      rfl
    · simp only [w1, Function.update_apply]
      split
      · next hk => rw [hk]; exact ⟨rfl, rfl⟩
      · exact ⟨rfl, rfl⟩

/-- **RegisterEx.** -/
theorem registerEx_urls (c : ConnId) (req : Request) (w : World) (k : ConnId) :
    (((registerEx c req).after w).heap k).stationUrls =
      if k = c then ((Reader.parse registerExParams req.params).toOption.map (registration w c)).getD
        (w.heap c).stationUrls
      else (w.heap k).stationUrls := by
  unfold registerEx withParsed
  cases Reader.parse registerExParams req.params with
  | error e =>
    show (w.heap k).stationUrls = if k = c then (w.heap c).stationUrls else (w.heap k).stationUrls
    split
    · next hk => rw [hk]
    · rfl
  | ok urls =>
    obtain ⟨w1, hrun, -, hsame⟩ := connectionId_run c w
    unfold after
    simp only
    rw [run_bind_ok hrun]
    show ((Function.update w1.heap c { w1.heap c with
      stationUrls := urls.map (fun u => withRvcid (stripSid u) (idOf w c)) ++
        [withRvcid (publicUrl (w1.heap c).remote) (idOf w c)] }) k).stationUrls = _
    rw [Function.update_apply, (hsame c).1]
    split
    · rfl
    · exact (hsame k).2

/-! ## Who has which URLs -/

/-- The URLs of `c` stay what they are, but that a connection which is opened has none. -/
def Kept (c : ConnId) (w w' : World) : Prop :=
  w.nextConn ≤ w'.nextConn ∧ ((w'.heap c).stationUrls = (w.heap c).stationUrls ∨
    (w.nextConn ≤ c ∧ (w'.heap c).stationUrls = []))

instance (c : ConnId) : IsPreorder World (Kept c) where
  refl := fun _ => ⟨Nat.le_refl _, .inl rfl⟩
  trans := by
    rintro a b d ⟨hn1, h1⟩ ⟨hn2, h2⟩
    refine ⟨hn1.trans hn2, ?_⟩
    rcases h2 with h2 | ⟨hc, h2⟩
    · rcases h1 with h1 | ⟨hc, h1⟩
      · exact .inl (h2.trans h1)
      · exact .inr ⟨hc, h2.trans h1⟩
    · exact .inr ⟨hn1.trans hc, h2⟩

variable (env : Env) (c : ConnId)

theorem Kept.of_same {w w' : World} (hn : w'.nextConn = w.nextConn)
    (hu : (w'.heap c).stationUrls = (w.heap c).stationUrls) : Kept c w w' := ⟨Nat.le_of_eq hn.symm, .inl hu⟩

/-- A message. -/
theorem send_fixes (port : Port) (k : ConnId) (msg : Message) :
    Within (Fixes fun w : World => (w.nextConn, (w.heap c).stationUrls))
      (RMCDispatcher.send env port k msg) := by
  refine Within.bind (Within.attempt ?_) fun r => ?_
  · exact (sendMessage_acked env k msg).mono fun _ _ h => Prod.ext h.nextConn (h.stationUrls c)
  · cases r with
    | ok u => exact Within.modify fun _ => rfl
    | error e => exact Within.bind (Within.modify fun _ => rfl) fun _ => Within.raise _

theorem send_kept (port : Port) (k : ConnId) (msg : Message) :
    Within (Kept c) (RMCDispatcher.send env port k msg) :=
  (send_fixes env c port k msg).mono fun _ _ h => .of_same c (Prod.ext_iff.mp h).1 (Prod.ext_iff.mp h).2

theorem sendRequest_kept (port : Port) (k : ConnId) (proto method : Nat) (params : Bytes) :
    Within (Kept c) (RMCDispatcher.sendRequest env port k proto method params) := by
  refine Within.bind Within.get fun w => ?_
  exact Within.bind (Within.modify fun _ => .of_same c rfl rfl) fun _ => send_kept env c port k _

theorem telling_kept : Telling env (Kept c) where
  useDb := fun _ _ => .of_same c rfl rfl
  random := fun _ _ => .of_same c rfl rfl
  push := fun port k proto method params _ => sendRequest_kept env c port k proto method params
  modifyLobby := fun _ _ => .of_same c rfl rfl
  event := fun port k _ _ _ _ _ _ _ => sendRequest_kept env c port k _ _ _

theorem batching_kept : Batching env (Kept c) where
  toLobbying := (telling_kept env c).toLobbying
  batch := fun _ _ _ => Within.modify fun _ => .of_same c rfl rfl
  announce := Game.announceBatch_within (fun _ _ => .of_same c rfl rfl) (sendRequest_kept env c)

theorem transport_kept : Transport env (Kept c) where
  received := fun _ _ hr => .of_same c hr.nextConn (hr.stationUrls c)
  logged := fun _ _ _ => .of_same c rfl rfl
  withConn := fun w k conn hconn => by
    refine .of_same c rfl ?_
    rw [World.heap_withConn]
    split
    · next hk => rw [hk]; exact (congrArg Connection.stationUrls hconn :)
    · rfl
  evicted := fun _ _ _ => .of_same c rfl rfl
  opened := fun w port remote => by
    refine ⟨Nat.le_succ _, ?_⟩
    by_cases hc : c = w.nextConn
    · refine .inr ⟨Nat.le_of_eq hc.symm, ?_⟩
      rw [hc]
      show (Function.update w.heap w.nextConn _ w.nextConn).stationUrls = []
      rw [Function.update_self]
      rfl
    · refine .inl ?_
      show (Function.update w.heap w.nextConn _ c).stationUrls = _
      rw [Function.update_of_ne hc]
  answer := fun port k msg _ => send_kept env c port k msg

/-- The URLs that an event gives connection `c`. -/
def registered (w : World) (e : Event) (c : ConnId) : Option (List Str) :=
  (requestOf env w e).bind fun r =>
    if r.2.1 = c ∧ r.2.2.Registers then
      (Reader.parse registerExParams r.2.2.params).toOption.map (registration w c)
    else none

/-- An event that gives `c` no URLs. -/
theorem step_kept {e : Event} {w : World} (h : registered env w e c = none) :
    Kept c w (step env e w) := by
  refine (transport_kept env c).step (fun port k req hreq => ?_)
    fun id _ => expire_within (batching_kept env c) id
  refine (telling_kept env c).respond port k req (fun hr w1 => ?_) fun _ => ?_
  · have hn : ((registerEx k req).after w1).nextConn = w1.nextConn :=
      (registerEx_mute k req w1).toQuiet.nextConn
    refine .of_same c hn ?_
    show (((registerEx k req).after w1).heap c).stationUrls = _
    rw [registerEx_urls]
    split
    · next hk =>
      subst hk
      -- its params cannot be parsed
      unfold registered at h
      rw [hreq, Option.bind_some, if_pos ⟨rfl, hr⟩, Option.map_eq_none_iff] at h
      rw [h]
      rfl
    · rfl
  · refine Game.reportStats_within (batching_kept env c)
      (Game.storeReport_within (fun _ _ => .of_same c rfl rfl) (fun _ _ _ _ _ _ => .of_same c rfl rfl)
        fun _ _ _ _ => .of_same c rfl rfl) (fun _ _ => .of_same c rfl rfl) port k req

theorem registration_congr {w w1 : World} (hr : Received w w1) (k : ConnId) :
    registration w1 k = registration w k := by
  have hid : idOf w1 k = idOf w k := by
    unfold idOf
    rw [show (w1.heap k).rvConnectionId = (w.heap k).rvConnectionId from
      (congrArg Connection.rvConnectionId (hr.session k) :), show w1.nextConnectionId =
      w.nextConnectionId by rw [hr.rest]]
  funext urls
  unfold registration
  rw [hid, hr.remote]

/-- An event that gives `c` URLs. -/
theorem step_registered {e : Event} {w : World} {us : List Str} (h : registered env w e c = some us) :
    ((step env e w).heap c).stationUrls = us := by
  unfold registered at h
  obtain ⟨⟨port, k, req⟩, hreq, h⟩ := Option.bind_eq_some_iff.mp h
  split at h
  · next hk =>
    obtain ⟨hk, hregisters⟩ := hk
    change k = c at hk
    subst hk
    have hh : RMCDispatcher.handlerFor env req = some fun _ c r => registerEx c r :=
      RMCDispatcher.handlerFor_eq env hregisters.1 hregisters.2 rfl
    obtain ⟨body, w1, hr, hafter⟩ := step_handled_of env
      (fun msg _ => send_fixes env k port k msg) hreq hh
    have hurls := registerEx_urls k req (w1.logged (.onPayload port k body)) k
    change _ = if k = k then ((Reader.parse registerExParams req.params).toOption.map
      (registration w1 k)).getD (w1.heap k).stationUrls else _ at hurls
    rw [if_pos rfl, registration_congr hr, h] at hurls
    exact (Prod.ext_iff.mp hafter).2.trans hurls
  · cases h

/-! ## The last registration -/

/-- Connections that are still to come have no URLs. -/
structure Fresh (w : World) : Prop extends Sound w where
  stationUrls : ∀ c, w.nextConn ≤ c → (w.heap c).stationUrls = []

/-- **An event**: a connection has the URLs that it is given, or those it had. -/
theorem step_urls (e : Event) {w : World} (hw : Fresh w) :
    ((step env e w).heap c).stationUrls = (registered env w e c).getD (w.heap c).stationUrls := by
  cases h : registered env w e c with
  | some us => exact step_registered env c h
  | none =>
    rcases (step_kept env c h).2 with hsame | ⟨hc, hnil⟩
    · exact hsame
    · exact hnil.trans (hw.stationUrls c hc).symm

/-- Who registers is there. -/
theorem registered_lt {e : Event} {w : World} (hw : Sound w) {us : List Str}
    (h : registered env w e c = some us) : c < w.nextConn := by
  unfold registered at h
  obtain ⟨⟨port, k, req⟩, hreq, h⟩ := Option.bind_eq_some_iff.mp h
  have hk : k = c := by
    split at h
    · next hk => exact hk.1
    · cases h
  cases hb : bodyOf env w e with
  | none => cases (requestOf_none env hb).symm.trans hreq
  | some b =>
    obtain ⟨port', k', body⟩ := b
    obtain ⟨remote, pkt, -, -, hc, -⟩ := bodyOf_eq_some env hb
    have hsame : k' = k := by
      unfold requestOf at hreq
      rw [hb] at hreq
      simp only at hreq
      split at hreq
      · cases hreq
        rfl
      · cases hreq
    rw [← hk, ← hsame]
    exact hw.lt port' remote k' hc

theorem step_fresh (e : Event) {w : World} (hw : Fresh w) : Fresh (step env e w) where
  toSound := step_sound env e hw.toSound
  stationUrls := fun k hk => by
    have hk' : w.nextConn ≤ k := (step_aged env e hw.indexed).nextConn.trans hk
    rw [step_urls env k e hw]
    cases h : registered env w e k with
    | none => exact hw.stationUrls k hk'
    | some us => exact absurd (registered_lt env k hw.toSound h) (Nat.not_lt.mpr hk')

/-- **A connection has the URLs of its last RegisterEx**, in every run: with its id behind
each, and its observed endpoint. -/
theorem urls_history (w0 : World) (hs : Sound w0) (hn : ∀ k, (w0.heap k).stationUrls = [])
    (es : List Event) (us : List Str) (hus : us ≠ []) :
    ((runs (step env) es w0).heap c).stationUrls = us ↔
      Since (step env) (fun e w => registered env w e c = some us)
        (fun e w => (registered env w e c).isSome) es w0 := by
  refine @runs_iff_since_of_not _ _ _ _ _ (fun w => (w.heap c).stationUrls = us) Fresh
    (fun e _ h => step_fresh env e h) (fun e w hw => ?_) es w0 ⟨hs, fun k _ => hn k⟩ ?_
  · rw [step_urls env c e hw]
    cases registered env w e c with
    | none => simp
    | some us' => simp
  · rw [hn]
    exact hus.symm

/-- Two consoles. -/
def consoles : World :=
  Sample.world [{ Sample.connection .secure 1 10000 with stationUrls := [], rvConnectionId := 0 },
    { Sample.connection .secure 2 10001 with stationUrls := [], rvConnectionId := 0 }]

def register (url : Str) : Bytes := wU32 1 ++ wQstring url ++ wU16 1 ++ [0] ++ wU32 0

/-- One registers and creates a lobby. -/
def hosting : List Event :=
  [.packet .secure (Sample.remote 1) (Sample.data 1 11 4 (register "prudp:/address=192.168.0.2".toList)),
   .packet .secure (Sample.remote 1) (Sample.data 2 60 4 [])]

/-- The other registers and joins it. -/
def joining : List Event :=
  [.packet .secure (Sample.remote 2) (Sample.data 1 11 4 (register "prudp:/address=192.168.0.3".toList)),
   .packet .secure (Sample.remote 2) (Sample.data 2 60 5 (wU32 10000))]

theorem consoles_unregistered : Urls.Unregistered consoles where
  pos := Nat.one_pos
  rvConnectionId := fun c => by
    match c with
    | 0 => rfl
    | 1 => rfl
    | _ + 2 => rfl
  stationUrls := fun c => by
    match c with
    | 0 => rfl
    | 1 => rfl
    | _ + 2 => rfl

theorem urls_history_hosting : Since (step Sample.env)
    (fun e w => registered Sample.env w e 0 = some ["prudp:/address=192.168.0.2;RVCID=1".toList,
      "prudp:/address=10.0.0.1;port=3074;sid=15;type=3;RVCID=1".toList])
    (fun e w => (registered Sample.env w e 0).isSome) hosting consoles :=
  (urls_history Sample.env 0 consoles (Sample.world_sound _) consoles_unregistered.stationUrls hosting _
    (by decide)).mp (by decide +kernel)

/-! ## An introduction -/

/-- Without another registration the URLs stay. -/
theorem runs_urls {es : List Event} {w : World} (hw : Fresh w)
    (h : Guarded (step env) (fun e w => registered env w e c = none) es w) :
    ((runs (step env) es w).heap c).stationUrls = (w.heap c).stationUrls := by
  refine (runs_invariant (I := fun v => Fresh v ∧ (v.heap c).stationUrls = (w.heap c).stationUrls)
    (fun e v hnone hv => ⟨step_fresh env e hv.1, ?_⟩) es w h ⟨hw, rfl⟩).2
  rw [step_urls env c e hv.1, hnone]
  exact hv.2

/-- A RequestProbeInitiation that names URLs of connection `t`, which is listed. -/
theorem probe_sends_both {w : World} (ht : Urls.Tagged w) (hb : Offers.Bounded w) {e : Event}
    {port : Port} {req : Request} (hreq : requestOf env w e = some (port, c, req)) (hprobe : req.Probes)
    {urls : List Str} (hparse : Reader.parse NatTraversal.urlList req.params = .ok urls)
    (hne : urls ≠ []) {t : ConnId} (hsub : urls ⊆ (w.heap t).stationUrls)
    (hlisted : ∃ g ∈ w.lobby.registry.allGatherings, ∃ p ∈ g.participants, p.conn = some t) :
    Sends w (step env e w) (requests env w port (bothWays w c t)) := by
  have hs := step_pushes env e hb
  obtain ⟨g, hg, p, hp, hpt⟩ := hlisted
  have hfound : target w req = some t := by
    unfold target
    rw [hparse]
    exact Urls.findConnByUrls_of_tagged ht hg hp hpt hne hsub
  have hdue : requestDue env w port c req = bothWays w c t := by
    unfold requestDue
    rw [if_neg fun h => ?_, if_neg fun h => ?_, if_neg fun h => ?_, if_pos hprobe, hfound]
    · rfl
    all_goals
      have := hprobe.1
      omega
  unfold pushed at hs
  rw [hreq, ← hdue] at *
  exact hs

/-- **Two consoles are introduced.**  URLs of a host that the server has handed out (a search,
a quick match and a join list them) lead to the connection of the host for as long as it is
listed and does not register again: who names some of them has the server ask the host to
probe the namer's URLs, and the namer those of the host, and nobody else is asked anything.
Behind one address only the first URL of each is probed. -/
theorem introduced (w0 : World) (hs : Sound w0) (hu : Urls.Unregistered w0)
    (hl : w0.lobby = Lobby.empty) (hp : ∀ c, (w0.heap c).userPid < 2 ^ 32) (es later : List Event)
    (w w' : World) (hw : w = runs (step env) es w0) (hw' : w' = runs (step env) later w)
    (g : Gathering) (host : ConnId) (hhost : g.hostConn = some host)
    (hkept : Guarded (step env) (fun e w => registered env w e host = none) later w)
    (hlisted : ∃ g' ∈ w'.lobby.registry.allGatherings, ∃ p ∈ g'.participants, p.conn = some host)
    (e : Event) (port : Port) (req : Request) (hreq : requestOf env w' e = some (port, c, req))
    (hprobe : req.Probes) (urls : List Str)
    (hparse : Reader.parse NatTraversal.urlList req.params = .ok urls) (hne : urls ≠ [])
    (hsub : urls ⊆ Game.hostUrls w g) :
    Sends w' (step env e w') (requests env w' port (bothWays w' c host)) := by
  have hrun : w' = runs (step env) (es ++ later) w0 := by
    rw [hw', hw, runs_append]
  have hfresh : Fresh w := by
    rw [hw]
    exact runs_preserves (fun e _ h => step_fresh env e h) es w0 ⟨hs, fun k _ => hu.stationUrls k⟩
  have htagged : Urls.Tagged w' := by
    rw [hrun]
    exact runs_preserves (Urls.step_tagged env) _ w0 hu.tagged
  have hbounded : Offers.Bounded w' := by
    rw [hrun]
    exact Offers.runs_bounded env hl hp _
  refine probe_sends_both env c htagged hbounded hreq hprobe hparse hne ?_ hlisted
  rw [hw', runs_urls env host hfresh hkept]
  unfold Game.hostUrls at hsub
  rw [hhost] at hsub
  exact hsub

/-- The guest names the LAN URL of its host. -/
def asking : Event :=
  .packet .secure (Sample.remote 2)
    (Sample.data 3 3 1 (wU32 1 ++ wQstring "prudp:/address=192.168.0.2;RVCID=1".toList))

def askingRequest : Request :=
  { proto := 3, method := 1, callId := 1
    params := wU32 1 ++ wQstring "prudp:/address=192.168.0.2;RVCID=1".toList }

theorem introduced_joining : ∃ rs, Sends (runs (step Sample.env) joining (runs (step Sample.env) hosting consoles))
    (step Sample.env asking (runs (step Sample.env) joining (runs (step Sample.env) hosting consoles))) rs ∧
    rs.map (fun r => (r.2.1, r.2.2.proto, r.2.2.method)) = [(0, 3, 2), (0, 3, 2), (1, 3, 2), (1, 3, 2)] := by
  have halive : (((runs (step Sample.env) hosting consoles).lobby.get 10000).map fun g => g.hostConn) =
      some (some 0) := by decide +kernel
  obtain ⟨g, -, hhost⟩ := Option.map_eq_some_iff.mp halive
  have hurls : Game.hostUrls (runs (step Sample.env) hosting consoles) g =
      ((runs (step Sample.env) hosting consoles).heap 0).stationUrls := by
    unfold Game.hostUrls
    rw [hhost]
  have hpid : ∀ c, (consoles.heap c).userPid < 2 ^ 32 := fun c => by
    match c with
    | 0 => show 10000 < 2 ^ 32; omega
    | 1 => show 10001 < 2 ^ 32; omega
    | _ + 2 => show 0 < 2 ^ 32; omega
  refine ⟨_, introduced Sample.env 1 consoles (Sample.world_sound _) consoles_unregistered rfl hpid hosting
    joining _ _ rfl rfl g 0 hhost (by decide +kernel) (by decide +kernel) asking .secure askingRequest
    (by decide +kernel) (by decide) ["prudp:/address=192.168.0.2;RVCID=1".toList] (by decide +kernel)
    (by decide) ?_, by decide +kernel⟩
  rw [hurls]
  decide +kernel

end Probes
end Ghostbusters
