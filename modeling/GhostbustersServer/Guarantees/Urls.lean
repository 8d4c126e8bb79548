import GhostbustersServer.Effects.Ids
import GhostbustersServer.Guarantees.Sample
import GhostbustersServer.Py.Triple

/-!
# Whose URL it is

A connection draws its id the first time it registers and keeps it; the digits at the
end of each of its URLs are that id, whatever the client put in front of them.

    Tagged w             ids are drawn once, and every URL ends in the id of its connection
    urls_identify        in every run, a URL leads `_find_conn_by_urls` to one connection
-/

namespace Ghostbusters
namespace Urls

open Py Act SecureConnection

/-! ## Reading the id back -/

/-- The digits that a text ends in. -/
def trailingDigits (s : Str) : Str := (s.reverse.takeWhile Char.isDigit).reverse

theorem trailingDigits_withRvcid (url : Str) (cid : Nat) :
    trailingDigits (withRvcid url cid) = decimal cid := by
  have hrev : (withRvcid url cid).reverse =
      (decimal cid).reverse ++ '=' :: ("DICVR;".toList ++ url.reverse) := by
    unfold withRvcid
    simp
  have hdigits : ∀ c ∈ (decimal cid).reverse, c.isDigit := fun c hc =>
    isDigit_of_mem_decimal (List.mem_reverse.mp hc)
  have hsep : ('=' :: ("DICVR;".toList ++ url.reverse)).takeWhile Char.isDigit = [] := by
    rw [List.takeWhile_cons]
    rfl
  unfold trailingDigits
  rw [hrev, List.takeWhile_append_of_pos hdigits, hsep, List.append_nil, List.reverse_reverse]

theorem withRvcid_inj {url url' : Str} {cid cid' : Nat} (h : withRvcid url cid = withRvcid url' cid') :
    cid = cid' := by
  apply decimal_inj
  rw [← trailingDigits_withRvcid url cid, h, trailingDigits_withRvcid]

/-! ## The invariant -/

/-- The URL ends in the id of its connection, which has drawn one. -/
def Owns (conn : Connection) (url : Str) : Prop :=
  conn.rvConnectionId ≠ 0 ∧ ∃ base, url = withRvcid base conn.rvConnectionId

structure Tagged (w : World) : Prop where
  pos : 0 < w.nextConnectionId
  lt : ∀ c, (w.heap c).rvConnectionId < w.nextConnectionId
  distinct : ∀ c c', (w.heap c).rvConnectionId = (w.heap c').rvConnectionId →
    (w.heap c).rvConnectionId ≠ 0 → c = c'
  owns : ∀ c, ∀ url ∈ (w.heap c).stationUrls, Owns (w.heap c) url

theorem Tagged.disjoint {w : World} (h : Tagged w) {c c' : ConnId} (hne : c ≠ c') :
    (w.heap c).stationUrls.Disjoint (w.heap c').stationUrls := by
  intro url hu hu'
  obtain ⟨h0, base, he⟩ := h.owns c url hu
  obtain ⟨-, base', he'⟩ := h.owns c' url hu'
  exact hne (h.distinct c c' (withRvcid_inj (he.symm.trans he')) h0)

theorem Tagged.inert {w w' : World} (h : Inert w w') (ht : Tagged w) : Tagged w' where
  pos := by rw [h.nextConnectionId]; exact ht.pos
  lt := fun c => by rw [h.rvConnectionId, h.nextConnectionId]; exact ht.lt c
  distinct := fun c c' => by
    rw [h.rvConnectionId, h.rvConnectionId]
    exact ht.distinct c c'
  owns := fun c url hu => by
    unfold Owns
    rw [h.stationUrls] at hu
    rw [h.rvConnectionId]
    exact ht.owns c url hu

/-- A connection whose id no other has, and whose URLs end in it. -/
theorem Tagged.update {w : World} (h : Tagged w) {c : ConnId} {conn : Connection} {next : Nat}
    (hnext : w.nextConnectionId ≤ next) (hlt : conn.rvConnectionId < next)
    (hnew : ∀ k, k ≠ c → (w.heap k).rvConnectionId = conn.rvConnectionId →
      conn.rvConnectionId = 0)
    (howns : ∀ url ∈ conn.stationUrls, Owns conn url) {w' : World}
    (hheap : w'.heap = Function.update w.heap c conn) (hw' : w'.nextConnectionId = next) :
    Tagged w' := by
  have hself : w'.heap c = conn := by rw [hheap, Function.update_self]
  have hother : ∀ k, k ≠ c → w'.heap k = w.heap k := fun k hk => by
    rw [hheap, Function.update_of_ne hk]
  refine ⟨?_, ?_, ?_, ?_⟩
  · rw [hw']
    exact Nat.lt_of_lt_of_le h.pos hnext
  · intro k
    rw [hw']
    by_cases hk : k = c
    · rw [hk, hself]
      exact hlt
    · rw [hother k hk]
      exact Nat.lt_of_lt_of_le (h.lt k) hnext
  · intro k k' he h0
    by_cases hk : k = c
    · by_cases hk' : k' = c
      · rw [hk, hk']
      · rw [hk, hself] at he h0
        rw [hother k' hk'] at he
        exact absurd (hnew k' hk' he.symm) h0
    · rw [hother k hk] at he h0
      by_cases hk' : k' = c
      · rw [hk', hself] at he
        exact absurd (he.trans (hnew k hk he)) h0
      · rw [hother k' hk'] at he
        exact h.distinct k k' he h0
  · intro k
    by_cases hk : k = c
    · rw [hk, hself]
      exact howns
    · rw [hother k hk]
      exact h.owns k

/-- An id is drawn the first time, and is there afterwards. -/
theorem connectionId_triple (c : ConnId) :
    Triple Tagged (connectionId c)
      (fun cid w => Tagged w ∧ (w.heap c).rvConnectionId = cid ∧ cid ≠ 0) Tagged := by
  intro w hw
  by_cases h : (w.heap c).rvConnectionId ≠ 0
  · refine .inl ⟨(w.heap c).rvConnectionId, w, ?_, hw, rfl, h⟩
    unfold connectionId Srv.conn
    simp only [run_bind, run_get, run_pure]
    rw [if_pos h]
    rfl
  · rw [not_not] at h
    let conn := { w.heap c with rvConnectionId := w.nextConnectionId }
    let w' : World := { w with
      nextConnectionId := w.nextConnectionId + 1, heap := Function.update w.heap c conn }
    have hrun : (connectionId c).run w = (.ok w.nextConnectionId, w') := by
      unfold connectionId Srv.conn
      simp only [run_bind, run_get, run_pure]
      rw [if_neg (not_not.mpr h)]
      rfl
    have hurls : (w.heap c).stationUrls = [] := by
      by_contra hne
      obtain ⟨url, hu⟩ := List.exists_mem_of_ne_nil _ hne
      exact (hw.owns c url hu).1 h
    have hnew : ∀ k, k ≠ c → (w.heap k).rvConnectionId = conn.rvConnectionId →
        conn.rvConnectionId = 0 := fun k _ hk => absurd hk (Nat.ne_of_lt (hw.lt k))
    have howns : ∀ url ∈ conn.stationUrls, Owns conn url := by
      intro url hu
      simp only [conn, hurls, List.not_mem_nil] at hu
    refine .inl ⟨w.nextConnectionId, w', hrun, ?_, ?_, Nat.ne_of_gt hw.pos⟩
    · exact hw.update (Nat.le_succ _) (Nat.lt_succ_self _) hnew howns rfl rfl
    · simp only [w', Function.update_self, conn]

/-- The URLs of a registration, under the id that is there. -/
theorem setUrls_tagged {w : World} (hw : Tagged w) {c : ConnId} {cid : Nat}
    (hid : (w.heap c).rvConnectionId = cid) (h0 : cid ≠ 0) (urls : List Str)
    (hurls : ∀ url ∈ urls, ∃ base, url = withRvcid base cid) :
    Tagged (w.withConn c { w.heap c with stationUrls := urls }) := by
  have hnew : ∀ k, k ≠ c → (w.heap k).rvConnectionId = (w.heap c).rvConnectionId →
      (w.heap c).rvConnectionId = 0 := by
    intro k hk he
    by_contra h
    exact hk (hw.distinct k c he (by rw [he]; exact h))
  let conn := { w.heap c with stationUrls := urls }
  have hlt : conn.rvConnectionId < w.nextConnectionId := hw.lt c
  refine hw.update (Nat.le_refl _) hlt hnew ?_ rfl rfl
  intro url hu
  refine ⟨?_, ?_⟩
  · rw [hid]
    exact h0
  · rw [hid]
    exact hurls url hu

theorem registerEx_tagged (c : ConnId) (req : Request) :
    Within (Keeps Tagged) (registerEx c req) := by
  apply withParsed_within
  intro urls
  apply Triple.keeps
  refine Triple.bind (connectionId_triple c) fun cid => ?_
  rintro w ⟨hw, hid, h0⟩
  left
  refine ⟨_, _, rfl, setUrls_tagged hw hid h0 _ ?_⟩
  intro url hu
  rcases List.mem_append.mp hu with hu | hu
  · obtain ⟨u, -, rfl⟩ := List.mem_map.mp hu
    exact ⟨_, rfl⟩
  · exact ⟨_, List.mem_singleton.mp hu⟩

variable (env : Env)

/-- A push changes no connection's id and no URL. -/
theorem send_tagged (port : Port) (c : ConnId) (msg : Message) :
    Within (Keeps Tagged) (RMCDispatcher.send env port c msg) := by
  intro w hw
  obtain ⟨w1, hi, h | ⟨e, h⟩⟩ := Inert.send_after env port c msg w
  · rw [h]
    exact ⟨(hw.inert hi).pos, (hw.inert hi).lt, (hw.inert hi).distinct, (hw.inert hi).owns⟩
  · rw [h]
    exact ⟨(hw.inert hi).pos, (hw.inert hi).lt, (hw.inert hi).distinct, (hw.inert hi).owns⟩

theorem sendRequest_tagged (port : Port) (c : ConnId) (proto method : Nat) (params : Bytes) :
    Within (Keeps Tagged) (RMCDispatcher.sendRequest env port c proto method params) := by
  refine Within.bind Within.get fun w => ?_
  refine Within.bind (Within.modify fun w hw => ?_) fun _ => send_tagged env port c _
  exact ⟨hw.pos, hw.lt, hw.distinct, hw.owns⟩

/-- A new connection has neither an id nor URLs. -/
theorem synReceived_tagged {w : World} (hw : Tagged w) (port : Port) (remote : Remote) :
    Tagged (w.synReceived env port remote) := by
  refine hw.update (Nat.le_refl _) hw.pos (fun _ _ _ => rfl) ?_ rfl rfl
  intro url hu
  cases hu

theorem admits_tagged : Admits env (Keeps Tagged) where
  inert := fun _ _ h hw => hw.inert h
  push := fun port c proto method params _ => sendRequest_tagged env port c proto method params
  event := fun port c _ _ _ _ _ _ _ => sendRequest_tagged env port c _ _ _
  answer := fun port c msg _ => send_tagged env port c msg
  register := registerEx_tagged
  opened := fun _ port remote hw => synReceived_tagged env hw port remote

theorem step_tagged (e : Event) (w : World) (hw : Tagged w) : Tagged (step env e w) :=
  (admits_tagged env).step_all (sendRequest_tagged env) (fun _ _ hw => ⟨hw.pos, hw.lt, hw.distinct, hw.owns⟩)
    e w hw

/-! ## Finding a connection -/

/-- Nobody has registered yet. -/
structure Unregistered (w : World) : Prop where
  pos : 0 < w.nextConnectionId
  rvConnectionId : ∀ c, (w.heap c).rvConnectionId = 0
  stationUrls : ∀ c, (w.heap c).stationUrls = []

theorem Unregistered.tagged {w : World} (h : Unregistered w) : Tagged w where
  pos := h.pos
  lt := fun c => by rw [h.rvConnectionId]; exact h.pos
  distinct := fun c _ _ h0 => absurd (h.rvConnectionId c) h0
  owns := fun c url hu => by
    rw [h.stationUrls] at hu
    cases hu

/-- The one element that passes is the one that is found. -/
theorem find?_of_unique {α : Type} {p : α → Bool} {xs : List α} {x : α} (hx : x ∈ xs)
    (hp : p x = true) (h : ∀ y, p y = true → y = x) : xs.find? p = some x := by
  cases hf : xs.find? p with
  | none => exact absurd hp (by simpa using List.find?_eq_none.mp hf x hx)
  | some y => rw [h y (List.find?_some hf)]

theorem findConnByUrls_of_tagged {w : World} (h : Tagged w) {g : Gathering} {p : Participant}
    {c : ConnId} (hg : g ∈ w.lobby.registry.allGatherings) (hp : p ∈ g.participants)
    (hc : p.conn = some c) {urls : List Str} (hne : urls ≠ [])
    (hurls : urls ⊆ (w.heap c).stationUrls) : NatTraversal.findConnByUrls w urls = some c := by
  unfold NatTraversal.findConnByUrls
  apply find?_of_unique
  · exact List.mem_filterMap.mpr ⟨p, List.mem_flatMap.mpr ⟨g, hg, hp⟩, hc⟩
  · obtain ⟨url, hu⟩ := List.exists_mem_of_ne_nil _ hne
    exact List.any_eq_true.mpr ⟨url, hu, List.contains_iff_mem.mpr (hurls hu)⟩
  · intro k hk
    obtain ⟨url, hu, hin⟩ := List.any_eq_true.mp hk
    by_contra hkc
    exact h.disjoint hkc (List.contains_iff_mem.mp hin) (hurls hu)

/-- **A URL identifies its connection** in every run, whatever the clients register. -/
theorem urls_identify (es : List Event) (w : World) (hw : Unregistered w) :
    (∀ c c', c ≠ c' → ((runs (step env) es w).heap c).stationUrls.Disjoint
      ((runs (step env) es w).heap c').stationUrls) ∧
    ∀ g ∈ (runs (step env) es w).lobby.registry.allGatherings, ∀ p ∈ g.participants, ∀ c,
      p.conn = some c → ∀ urls, urls ≠ [] → urls ⊆ ((runs (step env) es w).heap c).stationUrls →
        NatTraversal.findConnByUrls (runs (step env) es w) urls = some c := by
  have ht := runs_preserves (step_tagged env) es w hw.tagged
  refine ⟨fun c c' hne => ht.disjoint hne, ?_⟩
  intro g hg p hp c hc urls hne hurls
  exact findConnByUrls_of_tagged ht hg hp hc hne hurls

/-- A client registers on both ports, the same URL each time and with a tag of its own making. -/
def sameUrls : List Event :=
  let params := wU32 1 ++ wQstring "prudp:/address=10.0.0.1;sid=15;RVCID=2".toList ++
    wU16 1 ++ [0] ++ wU32 0
  [.packet .auth (Sample.remote 1) Sample.syn,
   .packet .auth (Sample.remote 1) (Sample.connect []),
   .packet .auth (Sample.remote 1) (Sample.data 1 11 4 params),
   .packet .secure (Sample.remote 1) Sample.syn,
   .packet .secure (Sample.remote 1) { Sample.connect [] with signature := [5, 6, 7, 8] },
   .packet .secure (Sample.remote 1) (Sample.data 1 11 4 params)]

theorem urls_identify_sameUrls :
    ((runs (step Sample.env) sameUrls World.initial).heap 0).stationUrls.Disjoint
      ((runs (step Sample.env) sameUrls World.initial).heap 1).stationUrls :=
  (urls_identify Sample.env sameUrls World.initial
    ⟨Nat.one_pos, fun _ => rfl, fun _ => rfl⟩).1 0 1 (by decide)

end Urls
end Ghostbusters
