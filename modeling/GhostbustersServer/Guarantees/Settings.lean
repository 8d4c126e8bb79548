import GhostbustersServer.Guarantees.Browse

/-!
# What a lobby renders to, byte by byte

    Rendered g count s           s is the blob cut before its last settings byte, with id,
                                 owner and count in it
    Rendered.field               so every settings field but the count reads as in the blob
    render_preserves_settings    both renderings are of this kind, or both are the blob with
                                 id and owner in it
-/

namespace Ghostbusters

open Py

namespace Settings

open Browse (settingsStart settingsEnd overlaid)

/-- The four bytes at an offset. -/
def Within4 (off i : Nat) : Prop := off ≤ i ∧ i < off + 4

instance (off i : Nat) : Decidable (Within4 off i) := inferInstanceAs (Decidable (_ ∧ _))

def countAt (raw : Bytes) : Nat := settingsStart raw + participantCountOffsetInSettings

/-- The blob with id and owner in it. -/
structure Overlaid (g : Gathering) (s : Bytes) : Prop where
  length : s.length = g.rawParams.length
  id : slice s gatheringIdOffset (gatheringIdOffset + 4) = leBytes 4 g.id
  owner : slice s ownerPidOffset (ownerPidOffset + 4) = leBytes 4 g.ownerPid
  others : ∀ i, ¬ Within4 gatheringIdOffset i → ¬ Within4 ownerPidOffset i → s[i]? = g.rawParams[i]?

/-- The blob up to the last byte of its settings, with id, owner and count in it. -/
structure Rendered (g : Gathering) (count : Nat) (s : Bytes) : Prop where
  length : s.length = settingsEnd g.rawParams - 1
  id : slice s gatheringIdOffset (gatheringIdOffset + 4) = leBytes 4 g.id
  owner : slice s ownerPidOffset (ownerPidOffset + 4) = leBytes 4 g.ownerPid
  count : slice s (countAt g.rawParams) (countAt g.rawParams + 4) = leBytes 4 count
  others : ∀ i < settingsEnd g.rawParams - 1, ¬ Within4 gatheringIdOffset i → ¬ Within4 ownerPidOffset i →
    ¬ Within4 (countAt g.rawParams) i → s[i]? = g.rawParams[i]?

/-- Offset and width of each settings field that other code reads, but for the count:
ranked, mode, public and private slots, level, job, difficulty. -/
def fields : List (Nat × Nat) :=
  [(Game.setRanked, 1), (Game.setGameMode, 1), (publicSlotsOffsetInSettings, 4),
   (privateSlotsOffsetInSettings, 4), (Game.setLevelId, 4), (Game.setJobId, 4), (Game.setDifficulty, 1)]

def field (raw : Bytes) (f : Nat × Nat) : Nat :=
  ofLE (slice raw (settingsStart raw + f.1) (settingsStart raw + f.1 + f.2))

/-- The display name and the settings read the same. -/
structure SameSettings (raw s : Bytes) : Prop where
  displayLen : Gathering.displayLen s = Gathering.displayLen raw
  display : slice s 0x36 (settingsStart s) = slice raw 0x36 (settingsStart raw)
  fields : ∀ f ∈ fields, field s f = field raw f

/-! ## Overlays -/

theorem getElem?_word {b : Bytes} {off i v : Nat} (h : off + (leBytes 4 v).length ≤ b.length)
    (hi : ¬ Within4 off i) : (patch b off (leBytes 4 v))[i]? = b[i]? := by
  rw [getElem?_patch h, leBytes_length]
  exact if_neg hi

theorem overlaid_length {g : Gathering} (h : ownerPidOffset + 4 ≤ g.rawParams.length) :
    (overlaid g).length = g.rawParams.length :=
  (Browse.overlay_view g.rawParams (leBytes 4 g.id) (leBytes 4 g.ownerPid) (leBytes_length 4 _)
    (leBytes_length 4 _) h).1

theorem overlaid_spec {g : Gathering} (h : ownerPidOffset + 4 ≤ g.rawParams.length) :
    Overlaid g (overlaid g) := by
  unfold ownerPidOffset at h
  have hid : gatheringIdOffset + (leBytes 4 g.id).length ≤ g.rawParams.length := by
    rw [leBytes_length]
    unfold gatheringIdOffset
    omega
  have howner : ownerPidOffset + (leBytes 4 g.ownerPid).length ≤
      (patch g.rawParams gatheringIdOffset (leBytes 4 g.id)).length := by
    rw [leBytes_length, patch_length hid]
    unfold ownerPidOffset
    omega
  refine ⟨overlaid_length h, ?_, ?_, fun i h1 h2 => ?_⟩
  · exact (Browse.overlay_view g.rawParams (leBytes 4 g.id) (leBytes 4 g.ownerPid)
      (leBytes_length 4 _) (leBytes_length 4 _) h).2.2
  · have hs := slice_patch (d := leBytes 4 g.ownerPid) (Nat.le_trans (Nat.le_add_right _ _) howner)
    rwa [leBytes_length] at hs
  · unfold overlaid
    rw [getElem?_word howner h2, getElem?_word hid h1]

/-! ## A full settings block -/

theorem rendered_full {g : Gathering} (count : Nat)
    (h : settingsEnd g.rawParams ≤ g.rawParams.length) :
    Rendered g count ((patch (overlaid g) (countAt g.rawParams) (leBytes 4 count)).take
      (settingsEnd g.rawParams - 1)) := by
  have hend : settingsEnd g.rawParams = settingsStart g.rawParams + 0x40 := rfl
  have hstart : 0x36 ≤ settingsStart g.rawParams := Nat.le_add_right _ _
  have hat : countAt g.rawParams = settingsStart g.rawParams + 0x11 := rfl
  have hover := overlaid_spec (g := g) (by unfold ownerPidOffset; omega)
  have hfits : countAt g.rawParams + (leBytes 4 count).length ≤ (overlaid g).length := by
    rw [leBytes_length, hover.length]
    omega
  refine ⟨?_, ?_, ?_, ?_, fun i hi h1 h2 h3 => ?_⟩
  · rw [List.length_take, patch_length hfits, hover.length]
    omega
  · unfold gatheringIdOffset
    rw [slice_take _ _ _ _ (by omega), slice_patch_before (by omega) (by omega)]
    exact hover.id
  · unfold ownerPidOffset
    rw [slice_take _ _ _ _ (by omega), slice_patch_before (by omega) (by omega)]
    exact hover.owner
  · rw [slice_take _ _ _ _ (by omega)]
    have hs := slice_patch (d := leBytes 4 count) (Nat.le_trans (Nat.le_add_right _ _) hfits)
    rwa [leBytes_length] at hs
  · rw [List.getElem?_take, if_pos hi, getElem?_word hfits h3]
    exact hover.others i h1 h2

namespace Rendered

variable {g : Gathering} {count : Nat} {s : Bytes}

/-- A range clear of the three overlays. -/
theorem slice_eq (h : Rendered g count s) {i j : Nat} (hi : 0x1c ≤ i)
    (hj : j ≤ settingsEnd g.rawParams - 1)
    (hcount : j ≤ countAt g.rawParams ∨ countAt g.rawParams + 4 ≤ i) :
    slice s i j = slice g.rawParams i j := by
  refine slice_congr fun k hik hkj => h.others k (by omega) ?_ ?_ ?_
  · unfold Within4 gatheringIdOffset
    omega
  · unfold Within4 ownerPidOffset
    omega
  · unfold Within4
    omega

theorem displayLen (h : Rendered g count s) : Gathering.displayLen s = Gathering.displayLen g.rawParams := by
  have hend : settingsEnd g.rawParams = settingsStart g.rawParams + 0x40 := rfl
  have hstart : 0x36 ≤ settingsStart g.rawParams := Nat.le_add_right _ _
  have hat : countAt g.rawParams = settingsStart g.rawParams + 0x11 := rfl
  unfold Gathering.displayLen displayQstringOffset
  rw [h.slice_eq (by omega) (by omega) (.inl (by omega))]

theorem settingsStart (h : Rendered g count s) :
    Browse.settingsStart s = Browse.settingsStart g.rawParams := by
  unfold Browse.settingsStart
  rw [h.displayLen]

theorem same (h : Rendered g count s) : SameSettings g.rawParams s := by
  have hend : settingsEnd g.rawParams = Browse.settingsStart g.rawParams + 0x40 := rfl
  have hstart : 0x36 ≤ Browse.settingsStart g.rawParams := Nat.le_add_right _ _
  have hat : countAt g.rawParams = Browse.settingsStart g.rawParams + 0x11 := rfl
  refine ⟨h.displayLen, ?_, fun f hf => ?_⟩
  · rw [h.settingsStart]
    exact h.slice_eq (by omega) (by omega) (.inl (by omega))
  -- no field reaches into the count or past byte 62
  · have hclear : f.1 + f.2 ≤ 0x3f ∧ (f.1 + f.2 ≤ 0x11 ∨ 0x15 ≤ f.1) := by
      revert f
      decide
    unfold field
    rw [h.settingsStart, h.slice_eq (by omega) (by omega) (by omega)]

end Rendered

/-- Two renderings of a lobby differ in the count alone. -/
theorem Rendered.agree {g : Gathering} {m n : Nat} {a b : Bytes} (ha : Rendered g m a)
    (hb : Rendered g n b) (i : Nat) (hi : ¬ Within4 (countAt g.rawParams) i) : a[i]? = b[i]? := by
  have hword : ∀ {off : Nat}, slice a off (off + 4) = slice b off (off + 4) → Within4 off i →
      a[i]? = b[i]? := by
    rintro off hs ⟨h1, h2⟩
    have hget : ∀ s : Bytes, (slice s off (off + 4))[i - off]? = s[i]? := by
      intro s
      unfold slice
      rw [List.getElem?_drop, Nat.add_sub_cancel' h1, List.getElem?_take, if_pos h2]
    rw [← hget a, hs, hget b]
  by_cases h1 : Within4 gatheringIdOffset i
  · exact hword (ha.id.trans hb.id.symm) h1
  by_cases h2 : Within4 ownerPidOffset i
  · exact hword (ha.owner.trans hb.owner.symm) h2
  by_cases hlt : i < settingsEnd g.rawParams - 1
  · rw [ha.others i hlt h1 h2 hi, hb.others i hlt h1 h2 hi]
  · rw [List.getElem?_eq_none (by rw [ha.length]; omega),
      List.getElem?_eq_none (by rw [hb.length]; omega)]

theorem renderStruct_rendered {g : Gathering} {count : Nat} (hid : g.id < 2 ^ 32)
    (howner : g.ownerPid < 2 ^ 32) (hfull : settingsEnd g.rawParams ≤ g.rawParams.length)
    (hcount : count < 2 ^ 32) : ∃ s, g.renderStruct count = .ok s ∧ Rendered g count s :=
  ⟨_, Browse.renderStruct_full hid howner hfull hcount, rendered_full count hfull⟩

end Settings

open Settings Browse in
/-- **Rendering keeps the settings.** With a full settings block both renderings are the blob
without the last byte of it, with id, owner and their own count in it; so they differ in the
count alone, and every other settings field reads as the host set it.  Without one both are
the blob, with id and owner in it where it is long enough for them. -/
theorem render_preserves_settings (g : Gathering) (count : Nat) (hid : g.id < 2 ^ 32)
    (howner : g.ownerPid < 2 ^ 32) (hlisted : g.participants.length - 1 < 2 ^ 32)
    (hcount : count < 2 ^ 32) :
    (settingsEnd g.rawParams ≤ g.rawParams.length →
      ∃ browse embed, g.renderSettingsForBrowse = .ok browse ∧ g.renderJoinEmbed count = .ok embed ∧
        Rendered g (g.participants.length - 1) browse ∧ Rendered g count embed ∧
        (∀ i, ¬ Within4 (countAt g.rawParams) i → browse[i]? = embed[i]?) ∧
        SameSettings g.rawParams browse ∧ SameSettings g.rawParams embed) ∧
    (¬ settingsEnd g.rawParams ≤ g.rawParams.length →
      ∃ s, g.renderSettingsForBrowse = .ok s ∧ g.renderJoinEmbed count = .ok s ∧
        (0x1c ≤ g.rawParams.length → Overlaid g s) ∧ (g.rawParams.length < 0x1c → s = g.rawParams)) := by
  refine ⟨fun hfull => ?_, fun hshort => ?_⟩
  · obtain ⟨browse, hb, browse_is⟩ := renderStruct_rendered hid howner hfull hlisted
    obtain ⟨embed, he, embed_is⟩ := renderStruct_rendered hid howner hfull hcount
    exact ⟨browse, embed, hb, he, browse_is, embed_is, browse_is.agree embed_is, browse_is.same,
      embed_is.same⟩
  · refine ⟨_, renderStruct_short _ hid howner hshort, renderStruct_short _ hid howner hshort, ?_, ?_⟩
    · intro hlong
      have howner : ownerPidOffset + 4 ≤ g.rawParams.length := hlong
      rw [if_pos howner]
      exact overlaid_spec howner
    · intro hlong
      exact if_neg (Nat.not_le.mpr hlong)

namespace Settings

/-- A lobby whose blob has no display name and blank settings. -/
def blank : Gathering where
  id := 10000
  ownerPid := 1
  ownerRemote := ⟨[], 0⟩
  rawParams := List.replicate 118 0

theorem blank_settings : SameSettings blank.rawParams ((blank.renderJoinEmbed 3).toOption.getD []) := by
  obtain ⟨-, embed, -, he, -, -, -, -, hsame⟩ :=
    (render_preserves_settings blank 3 (by decide) (by decide) (by decide) (by decide)).1 (by decide)
  rw [he]
  exact hsame

/-- A count of 2^32 is not rendered at all. -/
theorem blank_overflow : blank.id < 2 ^ 32 ∧ blank.ownerPid < 2 ^ 32 ∧
    Browse.settingsEnd blank.rawParams ≤ blank.rawParams.length ∧
    ¬ ∃ embed, blank.renderJoinEmbed (2 ^ 32) = .ok embed := by
  have hraise : blank.renderJoinEmbed (2 ^ 32) = .error .overflowError := by decide
  refine ⟨by decide, by decide, by decide, ?_⟩
  rintro ⟨embed, he⟩
  rw [hraise] at he
  cases he

end Settings
end Ghostbusters
