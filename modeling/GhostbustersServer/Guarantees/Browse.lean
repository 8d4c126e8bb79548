import GhostbustersServer.Guarantees.Offers
import GhostbustersServer.Py.Reads

/-!
# A browse reply is read back

    [u32 n]  n structs  [u32 n]  n url groups

Neither list carries the lengths of its elements, so a reply can be read only if every
lobby in it renders to exactly one struct and one url group.

    sendable_iff       when a lobby does
    browse_decodes     a reply of such lobbies is read back, ids in step
-/

namespace Ghostbusters

open Py PRUDPServer

namespace Browse

/-! ## The format -/

/-- 0x34 bytes with the id at 0x14, a counted display string, 63 bytes of settings. -/
def struct : Cursor Nat :=
  (Cursor.bytes 0x34).bind fun head => (Cursor.int 2).bind fun displayLen =>
    (Cursor.bytes displayLen).bind fun _ => (Cursor.bytes 63).bind fun _ =>
      Cursor.pure (ofLE (slice head 0x14 0x18))

/-- `[u16 n]` and `n` bytes, the last of them 00. -/
def qString : Cursor Bytes :=
  (Cursor.int 2).bind fun n => (Cursor.bytes n).bind fun raw =>
    (Cursor.check (raw.getLast? == some 0)).bind fun _ => Cursor.pure raw

def qStrings : Cursor (List Bytes) := (Cursor.int 4).bind fun k => qString.many k

def urlGroup : Cursor (Nat × List Bytes) :=
  (Cursor.int 4).bind fun gid => qStrings.bind fun urls => Cursor.pure (gid, urls)

/-- The ids of the structs, and the url groups. -/
def reply : Cursor (List Nat × List (Nat × List Bytes)) :=
  (Cursor.int 4).bind fun n => (struct.many n).bind fun ids =>
    (Cursor.int 4).bind fun m => (Cursor.check (m == n)).bind fun _ =>
      (urlGroup.many n).bind fun groups => Cursor.pure (ids, groups)

theorem local_struct : struct.Local :=
  (Cursor.Local.bytes _).bind fun _ => (Cursor.Local.int _).bind fun _ =>
    (Cursor.Local.bytes _).bind fun _ => (Cursor.Local.bytes _).bind fun _ => Cursor.Local.pure _

theorem local_qString : qString.Local :=
  (Cursor.Local.int _).bind fun _ => (Cursor.Local.bytes _).bind fun _ =>
    (Cursor.Local.check _).bind fun _ => Cursor.Local.pure _

theorem local_qStrings : qStrings.Local :=
  (Cursor.Local.int _).bind fun k => local_qString.many k

theorem local_urlGroup : urlGroup.Local :=
  (Cursor.Local.int _).bind fun _ => local_qStrings.bind fun _ => Cursor.Local.pure _

/-! ## A struct -/

/-- Where the settings block of a blob ends. -/
def settingsEnd (raw : Bytes) : Nat :=
  displayQstringOffset + 2 + Gathering.displayLen raw + settingsBlockSize

/-- A struct is one byte short of the settings block. -/
theorem struct_whole_iff (s : Bytes) (gid : Nat) :
    struct.whole s = some gid ↔ s.length + 1 = settingsEnd s ∧ ofLE (slice s 0x14 0x18) = gid := by
  have hgid : slice (slice s 0 (0 + 0x34)) 0x14 0x18 = slice s 0x14 0x18 := by
    show slice ((s.take 0x34).drop 0) 0x14 0x18 = _
    rw [List.drop_zero, slice_take _ _ _ _ (by omega)]
  rw [Cursor.whole_eq_some]
  unfold struct settingsEnd Gathering.displayLen displayQstringOffset settingsBlockSize
  constructor
  · intro h
    obtain ⟨head, o1, h1, h⟩ := Cursor.bind_eq_ok.mp h
    obtain ⟨dlen, o2, h2, h⟩ := Cursor.bind_eq_ok.mp h
    obtain ⟨disp, o3, h3, h⟩ := Cursor.bind_eq_ok.mp h
    obtain ⟨rest, o4, h4, h⟩ := Cursor.bind_eq_ok.mp h
    obtain ⟨-, rfl, rfl⟩ := Cursor.bytes_eq_ok.mp h1
    obtain ⟨-, rfl, rfl⟩ := Cursor.int_eq_ok.mp h2
    obtain ⟨-, rfl, rfl⟩ := Cursor.bytes_eq_ok.mp h3
    obtain ⟨-, rfl, rfl⟩ := Cursor.bytes_eq_ok.mp h4
    obtain ⟨h, hlen⟩ := Cursor.pure_eq_ok.mp h
    rw [hgid] at h
    rw [Nat.zero_add] at hlen
    exact ⟨by omega, h⟩
  · rintro ⟨hlen, rfl⟩
    refine Cursor.bind_eq_ok.mpr ⟨_, _, Cursor.bytes_eq_ok.mpr ⟨by omega, rfl, rfl⟩, ?_⟩
    refine Cursor.bind_eq_ok.mpr ⟨_, _, Cursor.int_eq_ok.mpr ⟨by omega, rfl, rfl⟩, ?_⟩
    rw [Nat.zero_add]
    refine Cursor.bind_eq_ok.mpr ⟨_, _, Cursor.bytes_eq_ok.mpr ⟨by omega, rfl, rfl⟩, ?_⟩
    refine Cursor.bind_eq_ok.mpr ⟨_, _, Cursor.bytes_eq_ok.mpr ⟨by omega, rfl, rfl⟩, ?_⟩
    refine Cursor.pure_eq_ok.mpr ⟨?_, by omega⟩
    show ofLE (slice (slice s 0 (0 + 0x34)) 0x14 0x18) = _
    rw [hgid]

/-- The blob with an id and an owner in it. -/
theorem overlay_view (raw gid owner : Bytes) (hg : gid.length = 4) (ho : owner.length = 4)
    (h : ownerPidOffset + 4 ≤ raw.length) :
    (patch (patch raw gatheringIdOffset gid) ownerPidOffset owner).length = raw.length ∧
      Gathering.displayLen (patch (patch raw gatheringIdOffset gid) ownerPidOffset owner) =
        Gathering.displayLen raw ∧
      slice (patch (patch raw gatheringIdOffset gid) ownerPidOffset owner) 0x14 0x18 = gid := by
  unfold ownerPidOffset gatheringIdOffset at *
  have h1 : (patch raw 0x14 gid).length = raw.length := patch_length (by omega)
  refine ⟨?_, ?_, ?_⟩
  · rw [patch_length (by omega), h1]
  · unfold Gathering.displayLen displayQstringOffset
    rw [slice_patch_after (by omega) (by omega), slice_patch_after (by omega) (by omega)]
  · rw [slice_patch_before (by omega) (by omega)]
    have hgid : slice (patch raw 0x14 gid) 0x14 (0x14 + gid.length) = gid := slice_patch (by omega)
    rwa [hg] at hgid

/-- The blob of a lobby with its id and owner in it. -/
def overlaid (g : Gathering) : Bytes :=
  patch (patch g.rawParams gatheringIdOffset (leBytes 4 g.id)) ownerPidOffset (leBytes 4 g.ownerPid)

/-- Where the settings block of a blob starts. -/
def settingsStart (raw : Bytes) : Nat := displayQstringOffset + 2 + Gathering.displayLen raw

/-- A blob without its settings block. -/
theorem renderStruct_short {g : Gathering} (count : Nat) (hid : g.id < 2 ^ 32)
    (howner : g.ownerPid < 2 ^ 32) (h : ¬ settingsEnd g.rawParams ≤ g.rawParams.length) :
    g.renderStruct count =
      .ok (if ownerPidOffset + 4 ≤ g.rawParams.length then overlaid g else g.rawParams) := by
  unfold Gathering.renderStruct
  by_cases hshort : g.rawParams.length < ownerPidOffset + 4
  · rw [if_pos hshort, if_neg (Nat.not_le.mpr hshort)]
    rfl
  obtain ⟨hlen, hdisp, -⟩ := overlay_view g.rawParams (leBytes 4 g.id) (leBytes 4 g.ownerPid)
    (leBytes_length 4 _) (leBytes_length 4 _) (Nat.not_lt.mp hshort)
  rw [if_neg hshort, if_pos (Nat.not_lt.mp hshort), toBytes_word hid, toBytes_word howner]
  dsimp only [bind, Except.bind]
  rw [hlen, hdisp]
  by_cases hdisplay : g.rawParams.length < displayQstringOffset + 2
  · rw [if_pos hdisplay]
    rfl
  · rw [if_neg hdisplay]
    exact if_pos (Nat.not_le.mp h)

/-- A blob with its settings block, cut before the last byte of it. -/
theorem renderStruct_full {g : Gathering} {count : Nat} (hid : g.id < 2 ^ 32)
    (howner : g.ownerPid < 2 ^ 32) (h : settingsEnd g.rawParams ≤ g.rawParams.length)
    (hcount : count < 2 ^ 32) : g.renderStruct count =
      .ok ((patch (overlaid g) (settingsStart g.rawParams + participantCountOffsetInSettings)
        (leBytes 4 count)).take (settingsEnd g.rawParams - 1)) := by
  have hend : 0x34 + 2 + 0x40 ≤ settingsEnd g.rawParams := by
    unfold settingsEnd displayQstringOffset settingsBlockSize
    omega
  have hlong : ¬ g.rawParams.length < ownerPidOffset + 4 := by
    unfold ownerPidOffset
    omega
  have hdisplay : ¬ g.rawParams.length < displayQstringOffset + 2 := by
    unfold displayQstringOffset
    omega
  obtain ⟨hlen, hdisp, -⟩ := overlay_view g.rawParams (leBytes 4 g.id) (leBytes 4 g.ownerPid)
    (leBytes_length 4 _) (leBytes_length 4 _) (Nat.not_lt.mp hlong)
  unfold Gathering.renderStruct
  rw [if_neg hlong, toBytes_word hid, toBytes_word howner, toBytes_word hcount]
  dsimp only [bind, Except.bind]
  rw [hlen, hdisp, if_neg hdisplay]
  exact if_neg (Nat.not_lt.mpr h)

/-- A lobby's struct: the blob with the id in it, cut before the last settings byte. -/
theorem renderStruct_view (g : Gathering) (count : Nat) (hid : g.id < 2 ^ 32)
    (howner : g.ownerPid < 2 ^ 32) (hcount : count < 2 ^ 32) :
    ∃ s, g.renderStruct count = .ok s ∧
      s.length = (if settingsEnd g.rawParams ≤ g.rawParams.length then settingsEnd g.rawParams - 1
        else g.rawParams.length) ∧
      (displayQstringOffset + 2 ≤ g.rawParams.length →
        Gathering.displayLen s = Gathering.displayLen g.rawParams ∧
          ofLE (slice s 0x14 0x18) = g.id) := by
  have hview := overlay_view g.rawParams (leBytes 4 g.id) (leBytes 4 g.ownerPid)
    (leBytes_length 4 _) (leBytes_length 4 _)
  have hle : ofLE (leBytes 4 g.id) = g.id := ofLE_leBytes_of_lt 4 g.id (by omega)
  by_cases hfull : settingsEnd g.rawParams ≤ g.rawParams.length
  · have hend : settingsEnd g.rawParams = settingsStart g.rawParams + 0x40 := rfl
    have hstart : 0x36 ≤ settingsStart g.rawParams := by
      unfold settingsStart displayQstringOffset
      omega
    obtain ⟨hlen, hdisp, hgid⟩ := hview (by unfold ownerPidOffset; omega)
    -- the count goes into the settings, behind everything that is read here
    have hfits : settingsStart g.rawParams + participantCountOffsetInSettings + (leBytes 4 count).length ≤
        (overlaid g).length := by
      unfold overlaid participantCountOffsetInSettings
      rw [leBytes_length, hlen]
      omega
    have hslice : ∀ i j, j ≤ 0x36 → slice ((patch (overlaid g)
        (settingsStart g.rawParams + participantCountOffsetInSettings) (leBytes 4 count)).take
          (settingsEnd g.rawParams - 1)) i j = slice (overlaid g) i j := by
      intro i j hj
      rw [slice_take _ _ _ _ (by omega), slice_patch_before (by omega) (by omega)]
    refine ⟨_, renderStruct_full hid howner hfull hcount, ?_, fun _ => ⟨?_, ?_⟩⟩
    · rw [if_pos hfull, List.length_take, patch_length hfits]
      unfold overlaid
      omega
    · show ofLE (slice _ 0x34 (0x34 + 2)) = _
      rw [hslice _ _ (Nat.le_refl _)]
      exact hdisp
    · rw [hslice _ _ (by omega)]
      unfold overlaid
      rw [hgid, hle]
  · refine ⟨_, renderStruct_short count hid howner hfull, ?_, fun hdisplay => ?_⟩
    · rw [if_neg hfull]
      split
      · next hlong => exact (hview hlong).1
      · rfl
    · unfold displayQstringOffset at hdisplay
      have hlong : ownerPidOffset + 4 ≤ g.rawParams.length := by
        unfold ownerPidOffset
        omega
      rw [if_pos hlong]
      unfold overlaid
      exact ⟨(hview hlong).2.1, by rw [(hview hlong).2.2, hle]⟩

/-- **The struct of a lobby** can be read exactly when the blob has its settings, but for the
last byte. -/
theorem struct_iff (g : Gathering) (hid : g.id < 2 ^ 32) (howner : g.ownerPid < 2 ^ 32)
    (hcount : g.participants.length < 2 ^ 32) :
    (∃ s, g.renderSettingsForBrowse = .ok s ∧ struct.whole s = some g.id) ↔
      settingsEnd g.rawParams ≤ g.rawParams.length + 1 := by
  obtain ⟨s, hs, hlen, hview⟩ := renderStruct_view g (g.participants.length - 1) hid howner (by omega)
  have hend : 0x34 + 2 + 0x40 ≤ settingsEnd g.rawParams := by
    unfold settingsEnd displayQstringOffset settingsBlockSize
    omega
  unfold displayQstringOffset at hview
  unfold Gathering.renderSettingsForBrowse
  rw [hs]
  simp only [Except.ok.injEq, exists_eq_left', struct_whole_iff]
  by_cases hraw : g.rawParams.length < 0x34 + 2
  · have hends : 0x34 + 2 + 0x40 ≤ settingsEnd s := by
      unfold settingsEnd displayQstringOffset settingsBlockSize
      omega
    rw [if_neg (by omega)] at hlen
    exact iff_of_false (fun h => by omega) (by omega)
  · obtain ⟨hdisp, hgid⟩ := hview (by omega)
    have hends : settingsEnd s = settingsEnd g.rawParams := by
      unfold settingsEnd
      rw [hdisp]
    rw [hends, hlen]
    refine ⟨fun h => ?_, fun h => ⟨?_, hgid⟩⟩
    · have := h.1
      split at this <;> omega
    · split <;> omega

/-! ## A url group -/

theorem urlGroup_whole (gid : Nat) (hid : gid < 2 ^ 32) (blob : Bytes) (urls : List Bytes) :
    urlGroup.whole (leBytes 4 gid ++ blob) = some (gid, urls) ↔ qStrings.whole blob = some urls := by
  have hlocal : (qStrings.bind fun urls => Cursor.pure (gid, urls)).Local :=
    local_qStrings.bind fun _ => Cursor.Local.pure _
  unfold urlGroup
  rw [(Reads.int (by omega : gid < 256 ^ 4)).whole_bind hlocal, Cursor.whole_eq_some,
    Cursor.whole_eq_some, Cursor.bind_eq_ok]
  constructor
  · rintro ⟨us, off, h1, h2⟩
    obtain ⟨h, hoff⟩ := Cursor.pure_eq_ok.mp h2
    cases h
    rw [← hoff]
    exact h1
  · intro h
    exact ⟨urls, _, h, rfl⟩

/-- A URL below 65535 bytes. -/
theorem renderUrl_eq_ok {url : Str} {b : Bytes} :
    Gathering.renderUrl url = .ok b ↔ (utf8Encode url).length + 1 < 2 ^ 16 ∧
      leBytes 2 ((utf8Encode url).length + 1) ++ (utf8Encode url ++ [0]) = b := by
  have hlen : (utf8Encode url ++ [0]).length = (utf8Encode url).length + 1 := by simp
  unfold Gathering.renderUrl
  simp only [hlen]
  constructor
  · intro h
    obtain ⟨len, hlen, h⟩ := Act.ok_of_bind h
    obtain ⟨hlt, rfl⟩ := toBytes_eq_ok.mp hlen
    cases h
    exact ⟨by omega, rfl⟩
  · rintro ⟨hlt, rfl⟩
    rw [toBytes_eq_ok.mpr ⟨by omega, rfl⟩]
    rfl

theorem reads_renderUrl {url : Str} {b : Bytes} (h : Gathering.renderUrl url = .ok b) :
    Reads qString b (utf8Encode url ++ [0]) := by
  obtain ⟨hlt, rfl⟩ := renderUrl_eq_ok.mp h
  have hbytes := Reads.bytes (utf8Encode url ++ [0])
  rw [List.length_append, List.length_singleton] at hbytes
  have hcheck : ((utf8Encode url ++ [0]).getLast? == some 0) = true := by
    rw [List.getLast?_concat]
    rfl
  unfold qString
  refine Reads.bind (Reads.int (by omega)) ?_
  rw [← List.append_nil (utf8Encode url ++ [0])]
  refine Reads.bind hbytes ?_
  rw [List.append_nil]
  exact Reads.check_bind hcheck (Reads.pure _)

/-- The live URLs of a host, rendered. -/
theorem liveGroup_iff (g : Gathering) (urls : List Str) (hid : g.id < 2 ^ 32) (hne : urls ≠ [])
    (hhost : g.hostConn.isSome) :
    (∃ u us, g.renderUrlGroupForBrowse urls = .ok u ∧ urlGroup.whole u = some (g.id, us)) ↔
      urls.length < 2 ^ 32 ∧ ∀ url ∈ urls, (utf8Encode url).length + 1 < 2 ^ 16 := by
  have hrun : g.renderUrlGroupForBrowse urls = do
      let count ← toBytes 4 urls.length
      let us ← urls.mapM Gathering.renderUrl
      return leBytes 4 g.id ++ count ++ us.flatten := by
    unfold Gathering.renderUrlGroupForBrowse
    rw [if_pos ⟨hhost, hne⟩, toBytes_word hid]
    rfl
  rw [hrun]
  constructor
  · rintro ⟨u, us, h, -⟩
    obtain ⟨count, hcount, h⟩ := Act.ok_of_bind h
    obtain ⟨encs, hencs, h⟩ := Act.ok_of_bind h
    have hfits := (Act.forall₂_of_mapM hencs).imp fun url enc h =>
      (⟨(renderUrl_eq_ok.mp h).1, trivial⟩ : (utf8Encode url).length + 1 < 2 ^ 16 ∧ True)
    exact ⟨(toBytes_eq_ok.mp hcount).1, ((List.forall₂_and_left _ _).mp hfits).1⟩
  · rintro ⟨hlen, hurls⟩
    let raw := fun url => utf8Encode url ++ [0]
    have hall : ∀ url ∈ urls, ∃ enc, Gathering.renderUrl url = .ok enc ∧
        Reads qString enc (raw url) := fun url hurl =>
      have henc := renderUrl_eq_ok.mpr ⟨hurls url hurl, rfl⟩
      ⟨_, henc, reads_renderUrl henc⟩
    obtain ⟨encs, hencs, hreads⟩ := Act.mapM_ok hall
    have hlist : Reads qStrings (leBytes 4 urls.length ++ encs.flatten) (urls.map raw) := by
      have hmany := Reads.many (List.forall₂_map_right_iff.mpr hreads.flip)
      rw [List.length_map] at hmany
      exact (Reads.int (by omega)).bind hmany
    rw [toBytes_word hlen, hencs]
    refine ⟨leBytes 4 g.id ++ leBytes 4 urls.length ++ encs.flatten, urls.map raw, rfl, ?_⟩
    rw [List.append_assoc, urlGroup_whole _ hid]
    exact hlist.whole

/-- Without live URLs, what is behind the settings block. -/
theorem storedGroup_iff (g : Gathering) (hid : g.id < 2 ^ 32) :
    (∃ u us, g.renderUrlGroupForBrowse [] = .ok u ∧ urlGroup.whole u = some (g.id, us)) ↔
      settingsEnd g.rawParams ≤ g.rawParams.length ∧
        ∃ us, qStrings.whole (g.rawParams.drop (settingsEnd g.rawParams)) = some us := by
  have hempty : ∀ us, urlGroup.whole [] ≠ some (g.id, us) := fun us h => by cases h
  have hend : displayQstringOffset + 2 ≤ settingsEnd g.rawParams := by
    unfold settingsEnd
    omega
  have hrun : g.renderUrlGroupForBrowse [] =
      if g.rawParams.length < settingsEnd g.rawParams then .ok []
      else .ok (leBytes 4 g.id ++ g.rawParams.drop (settingsEnd g.rawParams)) := by
    unfold Gathering.renderUrlGroupForBrowse
    rw [if_neg (fun h => h.2 rfl), toBytes_word hid]
    by_cases hshort : g.rawParams.length < displayQstringOffset + 2
    · rw [if_pos hshort, if_pos (by omega)]
      rfl
    · rw [if_neg hshort]
      by_cases hsettings : g.rawParams.length < settingsEnd g.rawParams
      · rw [if_pos hsettings]
        exact if_pos hsettings
      · rw [if_neg hsettings]
        exact if_neg hsettings
  rw [hrun]
  by_cases hshort : g.rawParams.length < settingsEnd g.rawParams
  · rw [if_pos hshort]
    refine iff_of_false ?_ (fun h => by omega)
    rintro ⟨u, us, h, hwhole⟩
    cases h
    exact hempty us hwhole
  · rw [if_neg hshort]
    simp only [Except.ok.injEq, exists_and_left, exists_eq_left', urlGroup_whole _ hid]
    exact ⟨fun h => ⟨by omega, h⟩, fun h => h.2⟩

/-! ## A lobby -/

/-- A lobby that renders to one struct and one url group. -/
structure Sendable (g : Gathering) (hostUrls : List Str) : Prop where
  id : g.id < 2 ^ 32
  settings : settingsEnd g.rawParams ≤ g.rawParams.length + 1
  live : hostUrls ≠ [] →
    hostUrls.length < 2 ^ 32 ∧ ∀ url ∈ hostUrls, (utf8Encode url).length + 1 < 2 ^ 16
  stored : hostUrls = [] →
    settingsEnd g.rawParams ≤ g.rawParams.length ∧
      ∃ us, qStrings.whole (g.rawParams.drop (settingsEnd g.rawParams)) = some us

/-- An id that does not fit its field is not in the struct. -/
theorem id_lt_of_struct {g : Gathering} {s : Bytes} {gid count : Nat}
    (hs : g.renderStruct count = .ok s) (hwhole : struct.whole s = some gid) : g.id < 2 ^ 32 := by
  unfold Gathering.renderStruct at hs
  split at hs
  · next hshort =>
    cases hs
    have hlen := ((struct_whole_iff _ _).mp hwhole).1
    unfold settingsEnd displayQstringOffset settingsBlockSize ownerPidOffset at *
    omega
  · obtain ⟨enc, henc, -⟩ := Act.ok_of_bind hs
    exact (toBytes_eq_ok.mp henc).1

/-- **Which lobbies can be sent.** -/
theorem sendable_iff (g : Gathering) (urls : List Str) (howner : g.ownerPid < 2 ^ 32)
    (hcount : g.participants.length < 2 ^ 32) (hhost : urls ≠ [] → g.hostConn.isSome) :
    Sendable g urls ↔
      (∃ s, g.renderSettingsForBrowse = .ok s ∧ struct.whole s = some g.id) ∧
        ∃ u us, g.renderUrlGroupForBrowse urls = .ok u ∧ urlGroup.whole u = some (g.id, us) := by
  constructor
  · intro h
    refine ⟨(struct_iff g h.id howner hcount).mpr h.settings, ?_⟩
    by_cases hne : urls = []
    · rw [hne]
      exact (storedGroup_iff g h.id).mpr (h.stored hne)
    · exact (liveGroup_iff g urls h.id hne (hhost hne)).mpr (h.live hne)
  · rintro ⟨hstruct, hgroup⟩
    have hid : g.id < 2 ^ 32 := by
      obtain ⟨s, hs, hwhole⟩ := hstruct
      exact id_lt_of_struct hs hwhole
    refine ⟨hid, (struct_iff g hid howner hcount).mp hstruct, fun hne => ?_, fun hnil => ?_⟩
    · exact (liveGroup_iff g urls hid hne (hhost hne)).mp hgroup
    · rw [hnil] at hgroup
      exact (storedGroup_iff g hid).mp hgroup

/-! ## A reply -/

theorem isSome_hostConn {w : World} {g : Gathering} (h : Game.hostUrls w g ≠ []) :
    g.hostConn.isSome := by
  unfold Game.hostUrls at h
  cases hc : g.hostConn with
  | some c => rfl
  | none =>
    rw [hc] at h
    exact absurd rfl h

/-- **A reply of lobbies that can be sent.** -/
theorem reply_of_sendable {w : World} {gs : List Gathering} (hn : gs.length < 2 ^ 32)
    (howner : ∀ g ∈ gs, g.ownerPid < 2 ^ 32) (hcount : ∀ g ∈ gs, g.participants.length < 2 ^ 32)
    (h : ∀ g ∈ gs, Sendable g (Game.hostUrls w g)) :
    ∃ body groups, Game.renderMatches w gs = .ok body ∧
      reply.whole body = some (gs.map (·.id), groups) ∧ groups.map (·.1) = gs.map (·.id) := by
  have hparts := fun g hg => (sendable_iff g (Game.hostUrls w g) (howner g hg) (hcount g hg)
    isSome_hostConn).mp (h g hg)
  have hstruct : ∀ g ∈ gs, ∃ s, g.renderSettingsForBrowse = .ok s ∧ Reads struct s g.id := by
    intro g hg
    obtain ⟨⟨s, hs, hwhole⟩, -⟩ := hparts g hg
    exact ⟨s, hs, (reads_iff local_struct).mpr hwhole⟩
  have hgroup : ∀ g ∈ gs, ∃ u, g.renderUrlGroupForBrowse (Game.hostUrls w g) = .ok u ∧
      ∃ a, Reads urlGroup u a ∧ a.1 = g.id := by
    intro g hg
    obtain ⟨-, u, us, hu, hwhole⟩ := hparts g hg
    exact ⟨u, hu, (g.id, us), (reads_iff local_urlGroup).mpr hwhole, rfl⟩
  obtain ⟨structs, hstructs, hreads⟩ := Act.mapM_ok hstruct
  obtain ⟨encs, hencs, hgroups⟩ := Act.mapM_ok hgroup
  obtain ⟨groups, hgroups, hids⟩ := Reads.collect (f := Prod.fst) (v := Gathering.id) hgroups
  have hlen : groups.length = gs.length := by
    have := congrArg List.length hids
    rwa [List.length_map, List.length_map] at this
  have hmany := Reads.many (List.forall₂_map_right_iff.mpr hreads.flip)
  have hgmany := Reads.many hgroups
  rw [List.length_map] at hmany
  rw [hlen] at hgmany
  have hcount := reads_wU32 hn
  refine ⟨wU32 gs.length ++ structs.flatten ++ wU32 gs.length ++ encs.flatten, groups, ?_, ?_, hids⟩
  · unfold Game.renderMatches
    rw [hstructs, hencs]
    rfl
  · refine Reads.whole ?_
    unfold reply
    rw [List.append_assoc, List.append_assoc]
    refine Reads.bind hcount (Reads.bind hmany (Reads.bind hcount ?_))
    exact Reads.check_bind (beq_self_eq_true _) (hgmany.bind_pure fun groups => (gs.map (·.id), groups))

/-! ## Browsing -/

/-- No filter, or one with every field left open. -/
def Unfiltered (req : Request) : Prop :=
  ∀ f, (if req.params = [] then none else Game.parseFilterParams req.params) = some f →
    f.anySet = false

/-- A search without a filter, or a quick match. -/
def Browses (req : Request) : Prop :=
  req.proto = 60 ∧ (req.method = 20 ∧ Unfiltered req ∨ req.method = 21)

/-- The lobbies in the answer. -/
def listed (w : World) (c : ConnId) (req : Request) : List Gathering :=
  if req.method = 20 then
    w.lobby.registry.allGatherings.filter fun g => 0 < g.publicRemaining && !g.closed
  else Game.quickMatches w (w.heap c).userPid req

theorem searchMatches_unfiltered {w : World} {c : ConnId} {req : Request} (h2 : req.method = 20)
    (h : Unfiltered req) : Game.searchMatches w req = .ok (listed w c req) := by
  unfold Game.searchMatches listed
  rw [if_pos h2]
  unfold Unfiltered at h
  cases hf : (if req.params = [] then none else Game.parseFilterParams req.params) with
  | none => rfl
  | some f =>
    show (if f.anySet then _ else _) = _
    rw [h f hf]
    rfl

theorem mem_allGatherings_of_listed {w : World} {c : ConnId} {req : Request} {g : Gathering}
    (h : g ∈ listed w c req) : g ∈ w.lobby.registry.allGatherings := by
  unfold listed at h
  split at h
  · exact (List.mem_filter.mp h).1
  · exact (Offers.slot_of_quickMatches h).1

variable (env : Env)

theorem browse_answer {e : Event} {w : World} {port : Port} {c : ConnId} {req : Request}
    (hreq : requestOf env w e = some (port, c, req)) (h : Browses req) :
    (step env e w).answer = some (RMCDispatcher.answerOf req (do
      let body ← Game.renderMatches w (listed w c req)
      return Game.ok req body)) := by
  obtain ⟨h1, ⟨h2, hf⟩ | h2⟩ := h
  · rw [search_answer env hreq h1 h2, searchMatches_unfiltered h2 hf]
    rfl
  · rw [quick_answer env hreq h1 h2]
    unfold listed
    rw [if_neg (by omega)]

/-- **Browse replies are read back**, in every state of every run from a server without
lobbies: if the lobbies listed can be sent, the answer is a success, and its body is a list
of structs and a list of url groups with the same ids, and nothing else. -/
theorem browse_decodes (w0 : World) (hl : w0.lobby = Lobby.empty)
    (hp : ∀ c, (w0.heap c).userPid < 2 ^ 32) (es : List Event) (w : World)
    (hw : w = runs (step env) es w0) (e : Event) (port : Port) (c : ConnId) (req : Request)
    (hreq : requestOf env w e = some (port, c, req)) (hb : Browses req)
    (hn : (listed w c req).length < 2 ^ 32)
    (hs : ∀ g ∈ listed w c req, Sendable g (Game.hostUrls w g)) :
    ∃ body groups, (step env e w).answer = some (Game.ok req body) ∧
      reply.whole body = some ((listed w c req).map (·.id), groups) ∧
      groups.map (·.1) = (listed w c req).map (·.id) := by
  have hbounded : Offers.Bounded w := by
    rw [hw]
    exact Offers.runs_bounded env hl hp es
  have hlive : ∀ g ∈ listed w c req, ∃ k, w.lobby.get k = some g := fun g hg =>
    (w.lobby.registry.mem_allGatherings_iff g).mp (mem_allGatherings_of_listed hg)
  have howner : ∀ g ∈ listed w c req, g.ownerPid < 2 ^ 32 := by
    intro g hg
    obtain ⟨k, hk⟩ := hlive g hg
    exact (hbounded.players k g hk).1
  have hfour : ∀ g ∈ listed w c req, g.participants.length < 2 ^ 32 := by
    intro g hg
    obtain ⟨k, hk⟩ := hlive g hg
    have := (hbounded.capped k g hk).four
    unfold maxParticipantsPerGathering at this
    omega
  obtain ⟨body, groups, hbody, hread, hids⟩ := reply_of_sendable hn howner hfour hs
  refine ⟨body, groups, ?_, hread, hids⟩
  rw [browse_answer env hreq hb, hbody]
  rfl

/-! ## A lobby that can be sent and one that cannot -/

/-- A blob with three public slots and nothing else in it. -/
def blob : Bytes := List.replicate 67 0 ++ 3 :: List.replicate 50 0

/-- The registered host creates a lobby from the blob. -/
def blobCreated : List Event := [.packet .secure (Sample.remote 1) (Sample.data 1 60 4 blob)]

theorem browse_decodes_blob :
    ∃ body groups, (step Sample.env Offers.search (runs (step Sample.env) blobCreated
        (Offers.connected true))).answer = some (Game.ok Offers.searchRequest body) ∧
      reply.whole body = some ([10000], groups) ∧ groups.map (·.1) = [10000] := by
  have hreq : requestOf Sample.env (runs (step Sample.env) blobCreated (Offers.connected true))
      Offers.search = some (.secure, 1, Offers.searchRequest) := by
    decide +kernel
  have hview : (listed (runs (step Sample.env) blobCreated (Offers.connected true)) 1
      Offers.searchRequest).map (fun g => (g.id, g.rawParams, Game.hostUrls
        (runs (step Sample.env) blobCreated (Offers.connected true)) g)) =
      [(10000, blob, ["prudp:/address=10.0.0.1".toList])] := by
    decide +kernel
  obtain ⟨g, hg, hgv⟩ := List.map_eq_singleton_iff.mp hview
  simp only [Prod.mk.injEq] at hgv
  obtain ⟨hid, hraw, hurls⟩ := hgv
  have hdecodes := browse_decodes Sample.env (Offers.connected true) rfl (Offers.connected_pid true)
    blobCreated _ rfl Offers.search .secure 1 Offers.searchRequest hreq
    ⟨rfl, .inl ⟨rfl, fun f hf => by cases hf⟩⟩
  rw [hg] at hdecodes
  simp only [List.map_cons, List.map_nil, hid] at hdecodes
  refine hdecodes (Nat.one_lt_two_pow (by omega)) fun g' hg' => ?_
  rw [List.mem_singleton.mp hg', hurls]
  refine ⟨by omega, ?_, fun _ => by decide +kernel, fun h => by cases h⟩
  rw [hraw]
  decide +kernel

/-- **An empty blob**, from a host without URLs and from one with a URL. -/
theorem not_browse_decodes_empty :
    (∃ body, (step Sample.env Offers.search (Offers.lobbyOf false)).answer =
        some (Game.ok Offers.searchRequest body) ∧ reply.whole body = none) ∧
      ∃ body, (step Sample.env Offers.search (Offers.lobbyOf true)).answer =
        some (Game.ok Offers.searchRequest body) ∧ reply.whole body = none :=
  ⟨⟨wU32 1 ++ wU32 1, by decide +kernel, by decide +kernel⟩,
    ⟨wU32 1 ++ wU32 1 ++ wU32 10000 ++ wU32 1 ++ wQstring "prudp:/address=10.0.0.1".toList,
      by decide +kernel, by decide +kernel⟩⟩

end Browse
end Ghostbusters
