import GhostbustersServer.Effects.Aging
import GhostbustersServer.Effects.Answers
import GhostbustersServer.Guarantees.Capacity

/-!
# What is offered, and what can be joined

SearchGatherings, QuickMatch and JoinGathering each test for themselves whether a lobby
can be joined.

    search            public slots     unlocked
    quick match       public slots     unlocked     host has URLs
    join              public slots                  host has URLs     below the hard cap

A lobby that is offered is joined exactly when it passes what the offer has not tested
(joined_iff).
-/

namespace Ghostbusters

open Py PRUDPServer

namespace Offers

/-! ## The two tests -/

theorem mem_of_filterMatches {f : Game.Filter} {gs found : List Gathering} {g : Gathering}
    (h : Game.filterMatches f gs = .ok found) (hg : g ∈ found) : g ∈ gs := by
  induction gs generalizing found with
  | nil =>
    cases h
    exact hg
  | cons g' gs ih =>
    obtain ⟨keep, -, h⟩ := Act.ok_of_bind h
    obtain ⟨rest, hrest, h⟩ := Act.ok_of_bind h
    cases h
    cases keep with
    | false => exact List.mem_cons_of_mem _ (ih hrest hg)
    | true =>
      rcases List.mem_cons.mp hg with rfl | hg
      · exact List.mem_cons_self
      · exact List.mem_cons_of_mem _ (ih hrest hg)

/-- A search tests for a public slot. -/
theorem slot_of_searchMatches {w : World} {req : Request} {gs : List Gathering} {g : Gathering}
    (h : Game.searchMatches w req = .ok gs) (hg : g ∈ gs) :
    g ∈ w.lobby.registry.allGatherings ∧ 0 < g.publicRemaining := by
  have hjoinable : g ∈ w.lobby.registry.allGatherings.filter fun g =>
      0 < g.publicRemaining && !g.closed := by
    unfold Game.searchMatches at h
    simp only at h
    split at h
    · split at h
      · exact mem_of_filterMatches h hg
      · cases h
        exact hg
    · cases h
      exact hg
  obtain ⟨hin, htest⟩ := List.mem_filter.mp hjoinable
  rw [Bool.and_eq_true, decide_eq_true_iff] at htest
  exact ⟨hin, htest.1⟩

/-- So does a quick match. -/
theorem slot_of_quickMatches {w : World} {pid : Nat} {req : Request} {g : Gathering}
    (hg : g ∈ Game.quickMatches w pid req) :
    g ∈ w.lobby.registry.allGatherings ∧ 0 < g.publicRemaining := by
  unfold Game.quickMatches at hg
  simp only [Option.mem_toList] at hg
  have htest := List.find?_some hg
  unfold Game.quickMatchCandidate at htest
  simp only [Bool.and_eq_true, decide_eq_true_iff] at htest
  exact ⟨List.mem_of_find?_eq_some hg, htest.1.1.2⟩

/-- What a join asks of a lobby with a public slot. -/
theorem admitted_of_slot {w : World} {pid : Nat} {req : Request} {g : Gathering}
    (hlen : 4 ≤ req.params.length) (hg : w.lobby.get (leadingGid req) = some g)
    (hslot : 0 < g.publicRemaining) :
    Game.admitted w pid req =
      if Game.hostUrls w g = [] ∨ g.isFull then none else some g := by
  unfold Game.admitted
  rw [if_neg (by omega), hg]
  simp only
  have hrem : ¬ (pid ∉ g.invitedPids ∧ g.publicRemaining = 0) := fun h => by omega
  by_cases hu : Game.hostUrls w g = []
  · rw [if_pos hu, if_pos (.inl hu)]
  · by_cases hf : g.isFull = true
    · rw [if_neg hu, if_pos (.inl hf), if_pos (.inr hf)]
    · rw [if_neg hu, if_neg (not_or.mpr ⟨hf, hrem⟩), if_neg (not_or.mpr ⟨hu, hf⟩)]

/-! ## An offer -/

variable (env : Env)

/-- The request of connection `c` is a search or a quick match, and `g` is among the
lobbies that its answer renders. -/
def Lists (w : World) (c : ConnId) (req : Request) (g : Gathering) : Prop :=
  req.proto = 60 ∧
    ((req.method = 20 ∧ ∃ gs body, Game.searchMatches w req = .ok gs ∧
        Game.renderMatches w gs = .ok body ∧ g ∈ gs) ∨
      (req.method = 21 ∧ ∃ body,
        Game.renderMatches w (Game.quickMatches w (w.heap c).userPid req) = .ok body ∧
        g ∈ Game.quickMatches w (w.heap c).userPid req))

section
variable {e : Event} {w : World} {port : Port} {c : ConnId} {req : Request} {g : Gathering}

theorem slot_of_lists (h : Lists w c req g) :
    g ∈ w.lobby.registry.allGatherings ∧ 0 < g.publicRemaining := by
  obtain ⟨-, ⟨-, gs, _, hgs, -, hg⟩ | ⟨-, _, -, hg⟩⟩ := h
  · exact slot_of_searchMatches hgs hg
  · exact slot_of_quickMatches hg

/-- The answer renders a list with the lobby in it. -/
theorem answer_of_lists (hreq : requestOf env w e = some (port, c, req)) (h : Lists w c req g) :
    ∃ gs body, g ∈ gs ∧ Game.renderMatches w gs = .ok body ∧
      (step env e w).answer = some (Game.ok req body) := by
  obtain ⟨h1, ⟨h2, gs, body, hgs, hbody, hg⟩ | ⟨h2, body, hbody, hg⟩⟩ := h
  · refine ⟨gs, body, hg, hbody, ?_⟩
    rw [search_answer env hreq h1 h2, hgs]
    show some (RMCDispatcher.answerOf req (do let body ← Game.renderMatches w gs; _)) = _
    rw [hbody]
    rfl
  · refine ⟨_, body, hg, hbody, ?_⟩
    rw [quick_answer env hreq h1 h2, hbody]
    rfl

/-- An offer changes no lobby. -/
theorem lobby_of_lists (hw : w.lobby.registry.WellIndexed)
    (hreq : requestOf env w e = some (port, c, req)) (h : Lists w c req g) :
    (step env e w).lobby = w.lobby := by
  have hmethod : req.method = 20 ∨ req.method = 21 := h.2.imp And.left And.left
  have h1 := h.1
  obtain ⟨op, hp, hop⟩ := step_performs env hreq hw
  rw [hop]
  cases hp with
  | idle => rfl
  | create _ h2 => omega
  | join _ _ h2 => omega
  | leave _ h2 => omega
  | destroy _ h2 => omega
  | close _ h2 => omega
  | reopen _ h2 => omega
  | report _ _ h2 => omega
  | cancel _ _ h2 => omega

end

/-! ## The join -/

/-- Numbers fit their fields, and lobbies are small. -/
structure Bounded (w : World) : Prop where
  indexed : w.lobby.registry.WellIndexed
  capped : Capacity.AllCapped w.lobby
  players : w.lobby.AllPlayers (· < 2 ^ 32)
  pids : ∀ c, (w.heap c).userPid < 2 ^ 32

theorem step_bounded (e : Event) {w : World} (h : Bounded w) : Bounded (step env e w) := by
  obtain ⟨op, hp, hop⟩ := step_lobby env e h.indexed
  refine ⟨step_indexed env e h.indexed, ?_, ?_, ?_⟩
  · rw [hop]
    exact Capacity.allCapped_apply env h.indexed hp h.capped
  · rw [hop]
    exact allPlayers_apply env h.indexed hp h.players fun _ c _ _ _ => h.pids c
  · intro c
    rcases (step_aged env e h.indexed).pid c with he | hlt
    · rw [he]
      exact h.pids c
    · exact hlt

theorem runs_bounded {w0 : World} (hl : w0.lobby = Lobby.empty)
    (hp : ∀ c, (w0.heap c).userPid < 2 ^ 32) (es : List Event) :
    Bounded (runs (step env) es w0) := by
  refine runs_preserves (fun e _ h => step_bounded env e h) es w0 ⟨?_, ?_, ?_, hp⟩
  · rw [hl]
    exact GatheringRegistry.WellIndexed.empty
  · rw [hl]
    intro k g hg
    cases hg
  · rw [hl]
    exact Lobby.allPlayers_empty _

section
variable {e : Event} {w : World} {port : Port} {c : ConnId} {req : Request} {g : Gathering}

/-- **A join of a lobby with a public slot.** -/
theorem join_ok_iff (hb : Bounded w) (hg : w.lobby.get g.id = some g) (hslot : 0 < g.publicRemaining)
    (hreq : requestOf env w e = some (port, c, req)) (h1 : req.proto = 60) (h2 : req.method = 5)
    (hlen : 4 ≤ req.params.length) (hgid : leadingGid req = g.id) :
    (∃ r, (step env e w).answer = some (.ok r)) ↔
      Game.hostUrls w g ≠ [] ∧ g.isFull = false ∧
        AllGo env w.heap (w.serverCallId port) (joinPushes w port c g) = true := by
  have hadm := @admitted_of_slot w (w.heap c).userPid req g hlen (by rw [hgid]; exact hg) hslot
  by_cases hrefused : Game.hostUrls w g = [] ∨ g.isFull = true
  · rw [if_pos hrefused] at hadm
    rw [join_answer_of_refused env hreq h1 h2 hadm]
    refine iff_of_false ?_ ?_
    · rintro ⟨r, h⟩
      cases h
    · rintro ⟨hu, hf, -⟩
      rcases hrefused with h | h
      · exact hu h
      · rw [hf] at h
        cases h
  · rw [if_neg hrefused] at hadm
    rw [not_or, Bool.not_eq_true] at hrefused
    have hid : g.id < 2 ^ 32 := by
      rw [← hgid]
      exact leadingGid_lt req
    rw [join_answer_iff env hreq h1 h2 hadm hg hid (hb.players _ g hg).1
      (length_joined_lt (hb.capped _ g hg).four)]
    exact ⟨fun h => ⟨hrefused.1, hrefused.2, h⟩, fun h => h.2.2⟩

end

/-- **What is offered can be joined exactly when** its host has URLs, it is below the hard
cap, and the pushes of the join can be encoded.  In every state of every run from a server
without lobbies; the join comes right after the offer. -/
theorem joined_iff (w0 : World) (hl : w0.lobby = Lobby.empty)
    (hp : ∀ c, (w0.heap c).userPid < 2 ^ 32) (es : List Event) (w : World)
    (hw : w = runs (step env) es w0) (ask join : Event) (port port' : Port) (c : ConnId)
    (req req' : Request) (g : Gathering) (hask : requestOf env w ask = some (port, c, req))
    (hlists : Lists w c req g)
    (hjoin : requestOf env (step env ask w) join = some (port', c, req'))
    (hproto : req'.proto = 60) (hmethod : req'.method = 5) (hlen : 4 ≤ req'.params.length)
    (hgid : leadingGid req' = g.id) :
    (∃ r, (step env join (step env ask w)).answer = some (.ok r)) ↔
      Game.hostUrls (step env ask w) g ≠ [] ∧ g.isFull = false ∧
        AllGo env (step env ask w).heap ((step env ask w).serverCallId port')
          (joinPushes (step env ask w) port' c g) = true := by
  have hb : Bounded w := by
    rw [hw]
    exact runs_bounded env hl hp es
  obtain ⟨hlisted, hslot⟩ := slot_of_lists hlists
  obtain ⟨k, hk⟩ := (w.lobby.registry.mem_allGatherings_iff g).mp hlisted
  have hget : (step env ask w).lobby.get g.id = some g := by
    rw [lobby_of_lists env hb.indexed hask hlists, hb.indexed.ids k g hk]
    exact hk
  exact join_ok_iff env (step_bounded env ask hb) hget hslot hjoin hproto hmethod hlen hgid

/-! ## A search and a join -/

/-- A host that has registered a URL or not, and a guest. -/
def connected (registered : Bool) : World :=
  Sample.world [{ Sample.connection .secure 1 10000 with
      stationUrls := if registered then ["prudp:/address=10.0.0.1".toList] else [] },
    Sample.connection .secure 2 10001]

/-- The host creates a lobby. -/
def created : List Event := [.packet .secure (Sample.remote 1) (Sample.data 1 60 4 [])]

def lobbyOf (registered : Bool) : World := runs (step Sample.env) created (connected registered)

/-- The guest searches, without a filter. -/
def search : Event := .packet .secure (Sample.remote 2) (Sample.data 1 60 20 [])

/-- The guest joins lobby 10000. -/
def join : Event := .packet .secure (Sample.remote 2) (Sample.data 2 60 5 (wU32 10000))

def searchRequest : Request := { proto := 60, method := 20, callId := 1, params := [] }

def joinRequest : Request := { proto := 60, method := 5, callId := 1, params := wU32 10000 }

theorem requestOf_search (registered : Bool) :
    requestOf Sample.env (lobbyOf registered) search = some (.secure, 1, searchRequest) := by
  cases registered <;> decide +kernel

theorem requestOf_join (registered : Bool) :
    requestOf Sample.env (step Sample.env search (lobbyOf registered)) join =
      some (.secure, 1, joinRequest) := by
  cases registered <;> decide +kernel

theorem lists_search (registered : Bool) : ∃ g, Lists (lobbyOf registered) 1 searchRequest g ∧
    g.id = 10000 ∧ g.ownerPid = 10000 ∧ g.pids = [10000] := by
  let gs := (lobbyOf registered).lobby.registry.allGatherings.filter fun g =>
    0 < g.publicRemaining && !g.closed
  have hview : gs.map (fun g => (g.id, g.ownerPid, g.pids)) = [(10000, 10000, [10000])] := by
    cases registered <;> decide +kernel
  have hrender : (Game.renderMatches (lobbyOf registered) gs).toOption.isSome = true := by
    cases registered <;> decide +kernel
  obtain ⟨g, hgs, hg⟩ := List.map_eq_singleton_iff.mp hview
  rw [Prod.mk.injEq, Prod.mk.injEq] at hg
  refine ⟨g, ⟨rfl, .inl ⟨rfl, gs, ?_⟩⟩, hg⟩
  cases hbody : Game.renderMatches (lobbyOf registered) gs with
  | error e =>
    rw [hbody] at hrender
    cases hrender
  | ok body => exact ⟨body, rfl, rfl, by rw [hgs]; exact List.mem_singleton_self g⟩

theorem connected_pid (registered : Bool) (c : ConnId) :
    ((connected registered).heap c).userPid < 2 ^ 32 := by
  match c with
  | 0 => show 10000 < 2 ^ 32; omega
  | 1 => show 10001 < 2 ^ 32; omega
  | c + 2 => show 0 < 2 ^ 32; omega

theorem joined_iff_registered : ∃ g, Lists (lobbyOf true) 1 searchRequest g ∧
    ((∃ r, (step Sample.env join (step Sample.env search (lobbyOf true))).answer = some (.ok r)) ↔
      Game.hostUrls (step Sample.env search (lobbyOf true)) g ≠ [] ∧ g.isFull = false ∧
        AllGo Sample.env (step Sample.env search (lobbyOf true)).heap
          ((step Sample.env search (lobbyOf true)).serverCallId .secure)
          (joinPushes (step Sample.env search (lobbyOf true)) .secure 1 g) = true) := by
  obtain ⟨g, hlists, hid, -, -⟩ := lists_search true
  have hlead : leadingGid joinRequest = g.id := by
    rw [hid]
    decide +kernel
  exact ⟨g, hlists, joined_iff Sample.env (connected true) rfl (connected_pid true) created
    (lobbyOf true) rfl search join .secure .secure 1 searchRequest joinRequest g
    (requestOf_search true) hlists (requestOf_join true) rfl rfl (by decide) hlead⟩

/-- A lobby whose host has no URLs is found, and cannot be joined. -/
theorem not_joined_unregistered : ∃ g, Lists (lobbyOf false) 1 searchRequest g ∧
    ((lobbyOf false).heap 1).userPid ≠ g.ownerPid ∧ ((lobbyOf false).heap 1).userPid ∉ g.pids ∧
    (step Sample.env join (step Sample.env search (lobbyOf false))).answer =
      some (Game.sessionVoid joinRequest) := by
  obtain ⟨g, hlists, -, howner, hpids⟩ := lists_search false
  have hpid : ((lobbyOf false).heap 1).userPid = 10001 := by decide +kernel
  refine ⟨g, hlists, ?_, ?_, by decide +kernel⟩
  · rw [hpid, howner]
    decide
  · rw [hpid, hpids]
    decide

end Offers
end Ghostbusters
