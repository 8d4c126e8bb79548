import GhostbustersServer.Guarantees.Settings

/-!
# A search finds what its filter asks for

    Blob              the ten strings of a filter blob and its trailer
    Blob.Asks         the five fields in it, each empty or a numeral
    Passes            a lobby's settings against the fields
    parse_blob        the parser reads the fields off the blob
    matches_eq        the matcher is `Passes`
    search_exact      so a search lists the open lobbies that pass
-/

namespace Ghostbusters

open Py PRUDPServer

variable (env : Env)

namespace Search

/-! ## Filter blobs -/

def qstr (raw : Bytes) : Bytes := wU16 raw.length ++ raw

/-- Bytes of a string slot: a text and NULs behind it. -/
def Padded (text : Str) (raw : Bytes) : Prop :=
  raw.length < 2 ^ 16 ∧ ∃ k, raw = utf8Encode text ++ List.replicate k 0

structure Blob where
  ranked : Bytes
  levelId : Bytes
  jobId : Bytes
  difficulty : Bytes
  /-- the four slots that no field is read from -/
  others : List Bytes
  gameMode : Bytes
  trailer : Bytes

def Blob.slots (b : Blob) : List Bytes := [b.levelId, b.jobId, b.difficulty] ++ b.others

def Blob.encode (b : Blob) : Bytes :=
  qstr b.ranked ++ wU32 7 ++ b.slots.flatMap qstr ++ qstr b.gameMode ++ b.trailer

/-- A numeral that `int` reads, or nothing. -/
structure Numeral (text : Str) : Prop where
  digits : ∀ c ∈ text, c.isDigit
  short : text.length ≤ maxStrDigits

def number (text : Str) : Nat := Nat.ofDigitChars 10 text 0

structure Numeric (f : Game.Filter) : Prop where
  ranked : Numeral f.ranked
  levelId : Numeral f.levelId
  jobId : Numeral f.jobId
  difficulty : Numeral f.difficulty
  gameMode : Numeral f.gameMode

structure Blob.Asks (b : Blob) (f : Game.Filter) : Prop where
  ranked : Padded f.ranked b.ranked
  levelId : Padded f.levelId b.levelId
  jobId : Padded f.jobId b.jobId
  difficulty : Padded f.difficulty b.difficulty
  gameMode : Padded f.gameMode b.gameMode
  count : b.others.length = 4
  others : ∀ raw ∈ b.others, raw.length < 2 ^ 16

/-! ## What a lobby must have -/

open Browse (settingsStart settingsEnd)
open Settings (field)

def Agrees (text : Str) (value : Nat) : Prop := text = [] ∨ number text = value

instance (text : Str) (value : Nat) : Decidable (Agrees text value) :=
  inferInstanceAs (Decidable (_ ∨ _))

/-- Settings that cannot be read pass. -/
def Passes (f : Game.Filter) (g : Gathering) : Prop :=
  settingsEnd g.rawParams ≤ g.rawParams.length →
    (f.ranked = [] ∨ field g.rawParams (Game.setRanked, 1) = if f.ranked = ['1'] then 1 else 0) ∧
    Agrees f.gameMode (field g.rawParams (Game.setGameMode, 1)) ∧
    Agrees f.levelId (field g.rawParams (Game.setLevelId, 4)) ∧
    Agrees f.jobId (field g.rawParams (Game.setJobId, 4)) ∧
    Agrees f.difficulty (field g.rawParams (Game.setDifficulty, 1))

instance (f : Game.Filter) (g : Gathering) : Decidable (Passes f g) :=
  inferInstanceAs (Decidable (_ → _))

/-- The open lobbies that pass, in the order of the registry. -/
def found (w : World) (f : Game.Filter) : List Gathering :=
  w.lobby.registry.allGatherings.filter fun g =>
    decide (g.closed = false ∧ 0 < g.publicRemaining ∧ Passes f g)

/-! ## The parser -/

theorem ascii_of_digits {text : Str} (h : ∀ c ∈ text, c.isDigit) : ∀ c ∈ text, c.toNat < 128 := by
  intro c hc
  have := (isDigit_bounds (h c hc)).2
  omega

theorem text_of_padded {text : Str} {raw : Bytes} (h : Numeral text) (hp : Padded text raw) :
    latin1Decode (rstripNul raw) = text := by
  obtain ⟨-, k, rfl⟩ := hp
  have hnul : ∀ x ∈ utf8Encode text, x ≠ 0 := by
    rw [utf8Encode_ascii (ascii_of_digits h.digits)]
    intro x hx
    obtain ⟨c, hc, rfl⟩ := List.mem_map.mp hx
    obtain ⟨hlo, hhi⟩ := isDigit_bounds (h.digits c hc)
    intro h0
    have hval : (UInt8.ofNat c.toNat).toNat = 0 := congrArg UInt8.toNat h0
    rw [UInt8.toNat_ofNat', Nat.mod_eq_of_lt (by omega)] at hval
    omega
  rw [rstripNul_append hnul]
  exact latin1Decode_ascii (ascii_of_digits h.digits)

theorem filterQstr_at (pre raw post : Bytes) (h : raw.length < 2 ^ 16) :
    Game.filterQstr (pre ++ qstr raw ++ post) pre.length =
      (latin1Decode (rstripNul raw), (pre ++ qstr raw).length) := by
  have hlen : ofLE (slice (pre ++ qstr raw ++ post) pre.length (pre.length + 2)) = raw.length := by
    rw [slice_between pre (wU16 raw.length) (raw ++ post) _ _ (by simp [qstr]) rfl (by simp)]
    unfold wU16
    rw [ofLE_leBytes]
    omega
  have hraw : slice (pre ++ qstr raw ++ post) (pre.length + 2) (pre.length + 2 + raw.length) = raw :=
    slice_between (pre ++ wU16 raw.length) raw post _ _ (by simp [qstr]) (by simp) rfl
  unfold Game.filterQstr
  dsimp only
  rw [hlen, hraw]
  simp [qstr, Nat.add_assoc]

theorem filterQstrs_at (pre : Bytes) (raws : List Bytes) (post : Bytes)
    (h : ∀ raw ∈ raws, raw.length < 2 ^ 16) :
    Game.filterQstrs (pre ++ raws.flatMap qstr ++ post) raws.length pre.length =
      (raws.map fun raw => latin1Decode (rstripNul raw), (pre ++ raws.flatMap qstr).length) := by
  induction raws generalizing pre with
  | nil => simp [Game.filterQstrs]
  | cons raw raws ih =>
    have hfirst := filterQstr_at pre raw (raws.flatMap qstr ++ post) (h raw List.mem_cons_self)
    have hrest := ih (pre ++ qstr raw) fun r hr => h r (List.mem_cons_of_mem raw hr)
    have hblob : pre ++ (raw :: raws).flatMap qstr ++ post =
        pre ++ qstr raw ++ (raws.flatMap qstr ++ post) := by simp
    have hblob' : pre ++ qstr raw ++ (raws.flatMap qstr ++ post) =
        pre ++ qstr raw ++ raws.flatMap qstr ++ post := by simp
    rw [hblob]
    unfold Game.filterQstrs
    simp only [List.length_cons, hfirst]
    rw [hblob', hrest]
    simp

/-- **The parser** reads the fields that the blob asks for. -/
theorem parse_blob {b : Blob} {f : Game.Filter} (h : b.Asks f) (hf : Numeric f) :
    Game.parseFilterParams b.encode = some f := by
  have hslots : ∀ raw ∈ b.slots, raw.length < 2 ^ 16 := by
    unfold Blob.slots
    simp only [List.cons_append, List.nil_append, List.mem_cons]
    rintro raw (rfl | rfl | rfl | hraw)
    · exact h.levelId.1
    · exact h.jobId.1
    · exact h.difficulty.1
    · exact h.others raw hraw
  have hseven : b.slots.length = 7 := by simp [Blob.slots, h.count]
  -- the blob, as each of the reads sees it
  have h0 := filterQstr_at [] b.ranked
    (wU32 7 ++ b.slots.flatMap qstr ++ qstr b.gameMode ++ b.trailer) h.ranked.1
  have h1 : ofLE (slice b.encode (qstr b.ranked).length ((qstr b.ranked).length + 4)) = 7 := by
    rw [slice_between (qstr b.ranked) (wU32 7) (b.slots.flatMap qstr ++ qstr b.gameMode ++ b.trailer)
      _ _ (by simp [Blob.encode]) rfl (by simp)]
    exact ofLE_wU32 7 (by omega)
  have h2 := filterQstrs_at (qstr b.ranked ++ wU32 7) b.slots (qstr b.gameMode ++ b.trailer) hslots
  have h3 := filterQstr_at (qstr b.ranked ++ wU32 7 ++ b.slots.flatMap qstr) b.gameMode b.trailer
    h.gameMode.1
  have hb0 : [] ++ qstr b.ranked ++ (wU32 7 ++ b.slots.flatMap qstr ++ qstr b.gameMode ++ b.trailer) =
      b.encode := by simp [Blob.encode]
  have hb2 : qstr b.ranked ++ wU32 7 ++ b.slots.flatMap qstr ++ (qstr b.gameMode ++ b.trailer) =
      b.encode := by simp [Blob.encode]
  have hb3 : qstr b.ranked ++ wU32 7 ++ b.slots.flatMap qstr ++ qstr b.gameMode ++ b.trailer =
      b.encode := rfl
  rw [hb0, List.length_nil, List.nil_append] at h0
  rw [hb2, hseven, List.length_append, wU32_length] at h2
  rw [hb3] at h3
  unfold Game.parseFilterParams
  simp only [h0, h1, ne_eq, not_true_eq_false, if_false, h2, h3]
  simp only [Blob.slots, List.cons_append, List.nil_append, List.map_cons, List.getD_cons_zero,
    List.getD_cons_succ, text_of_padded hf.ranked h.ranked, text_of_padded hf.levelId h.levelId,
    text_of_padded hf.jobId h.jobId, text_of_padded hf.difficulty h.difficulty,
    text_of_padded hf.gameMode h.gameMode]

/-! ## The matcher -/

theorem settingsSlice_eq (g : Gathering) :
    g.settingsSlice = if settingsEnd g.rawParams ≤ g.rawParams.length then
      some (slice g.rawParams (settingsStart g.rawParams) (settingsEnd g.rawParams)) else none := by
  unfold Gathering.settingsSlice
  dsimp only
  have hend : displayQstringOffset + 2 ≤ settingsEnd g.rawParams := by
    unfold settingsEnd
    omega
  by_cases hfull : settingsEnd g.rawParams ≤ g.rawParams.length
  · rw [if_neg (by omega), if_pos hfull]
    exact if_neg (Nat.not_lt.mpr hfull)
  · rw [if_neg hfull]
    split
    · rfl
    · exact if_pos (Nat.lt_of_not_le hfull)

/-- A word of the settings. -/
theorem word_settings (raw : Bytes) {off : Nat} (h : off + 4 ≤ 0x40) :
    ofLE (slice (slice raw (settingsStart raw) (settingsEnd raw)) off (off + 4)) = field raw (off, 4) := by
  have hend : settingsEnd raw = settingsStart raw + 0x40 := rfl
  unfold field
  rw [slice_slice _ (by omega), Nat.add_assoc]

/-- A byte of the settings. -/
theorem byte_settings {raw : Bytes} {off : Nat} (h : off < 0x40) (hfull : settingsEnd raw ≤ raw.length) :
    ((slice raw (settingsStart raw) (settingsEnd raw)).getD off 0).toNat = field raw (off, 1) := by
  have hend : settingsEnd raw = settingsStart raw + 0x40 := rfl
  exact (ofLE_byte raw (by omega) hfull).symm

theorem fieldMatches_eq {text : Str} (h : Numeral text) (value : Nat) :
    Game.fieldMatches text value = .ok (decide (Agrees text value)) := by
  unfold Game.fieldMatches Agrees
  by_cases hnil : text = []
  · simp [hnil]
  · rw [if_neg hnil, parseInt_digits hnil h.digits h.short]
    have hcast : ((number text : Int) == (value : Int)) = decide (number text = value) := by
      rw [Bool.eq_iff_iff, beq_iff_eq, decide_eq_true_eq, Int.natCast_inj]
    simp only [hnil, false_or]
    exact congrArg Except.ok hcast

theorem andThen_ok (a b : Bool) : Game.andThen (.ok a) (.ok b) = .ok (a && b) := by
  cases a <;> rfl

/-- **The matcher** tells the lobbies that pass. -/
theorem matches_eq {f : Game.Filter} (hf : Numeric f) (g : Gathering) :
    Game.gatheringMatchesFilter g f = .ok (decide (Passes f g)) := by
  unfold Game.gatheringMatchesFilter Passes
  rw [settingsSlice_eq]
  by_cases hfull : settingsEnd g.rawParams ≤ g.rawParams.length
  · rw [if_pos hfull]
    simp only [word_settings g.rawParams (show Game.setLevelId + 4 ≤ 0x40 by decide),
      word_settings g.rawParams (show Game.setJobId + 4 ≤ 0x40 by decide),
      byte_settings (show Game.setRanked < 0x40 by decide) hfull,
      byte_settings (show Game.setGameMode < 0x40 by decide) hfull,
      byte_settings (show Game.setDifficulty < 0x40 by decide) hfull,
      fieldMatches_eq hf.gameMode, fieldMatches_eq hf.levelId, fieldMatches_eq hf.jobId,
      fieldMatches_eq hf.difficulty, andThen_ok, hfull, true_implies, Bool.decide_and]
  · rw [if_neg hfull]
    simp [hfull]

theorem filterMatches_eq {f : Game.Filter} (hf : Numeric f) (gs : List Gathering) :
    Game.filterMatches f gs = .ok (gs.filter fun g => decide (Passes f g)) := by
  induction gs with
  | nil => rfl
  | cons g gs ih =>
    unfold Game.filterMatches
    rw [matches_eq hf, ih]
    by_cases hg : Passes f g
    · simp [hg, bind, Except.bind, pure, Except.pure]
    · simp [hg, bind, Except.bind, pure, Except.pure]

/-- A filter that asks for nothing lets everything pass. -/
theorem passes_of_unset {f : Game.Filter} (h : f.anySet = false) (g : Gathering) : Passes f g := by
  unfold Game.Filter.anySet at h
  simp only [List.any_cons, List.any_nil, Bool.or_false, Bool.or_eq_false_iff, decide_eq_false_iff_not,
    ne_eq, not_not] at h
  obtain ⟨h1, h2, h3, h4, h5⟩ := h
  exact fun _ => ⟨.inl h1, .inl h5, .inl h2, .inl h3, .inl h4⟩

/-- **The lobbies of a search** are the open ones that pass. -/
theorem searchMatches_eq {b : Blob} {f : Game.Filter} (h : b.Asks f) (hf : Numeric f) (w : World)
    (req : Request) (hreq : req.params = b.encode) :
    Game.searchMatches w req = .ok (found w f) := by
  have hne : req.params ≠ [] := by
    rw [hreq]
    simp [Blob.encode, wU32, leBytes]
  have hfilter : found w f = (w.lobby.registry.allGatherings.filter fun g =>
      0 < g.publicRemaining && !g.closed).filter fun g => decide (Passes f g) := by
    unfold found
    rw [List.filter_filter]
    congr 1
    funext g
    cases g.closed <;> simp [Bool.and_comm]
  unfold Game.searchMatches
  rw [if_neg hne, hreq, parse_blob h hf]
  dsimp only
  rw [filterMatches_eq hf, hfilter]
  cases hset : f.anySet with
  | true => rfl
  | false =>
    have hall : ∀ gs : List Gathering, gs.filter (fun g => decide (Passes f g)) = gs :=
      fun gs => List.filter_eq_self.mpr fun g _ => decide_eq_true (passes_of_unset hset g)
    rw [hall]
    rfl

/-! ## The answer -/

/-- The numbers of a lobby fit the fields of the reply. -/
structure Fits (w : World) (g : Gathering) : Prop where
  id : g.id < 2 ^ 32
  ownerPid : g.ownerPid < 2 ^ 32
  listed : g.participants.length - 1 < 2 ^ 32
  urls : (Game.hostUrls w g).length < 2 ^ 32
  url : ∀ url ∈ Game.hostUrls w g, (utf8Encode url).length ≤ 65534

theorem Fits.urlGroup {w : World} {g : Gathering} (h : Fits w g) :
    ∃ u, g.renderUrlGroupForBrowse (Game.hostUrls w g) = .ok u := by
  unfold Gathering.renderUrlGroupForBrowse
  rw [toBytes_word h.id, toBytes_word h.urls]
  split
  · have hall : ∀ url ∈ Game.hostUrls w g, ∃ enc, Gathering.renderUrl url = .ok enc ∧ True := by
      intro url hurl
      have := h.url url hurl
      exact ⟨_, Browse.renderUrl_eq_ok.mpr ⟨by omega, rfl⟩, trivial⟩
    obtain ⟨encs, hencs, -⟩ := Act.mapM_ok hall
    rw [hencs]
    exact ⟨_, rfl⟩
  · split
    · exact ⟨_, rfl⟩
    · dsimp only
      split
      · exact ⟨_, rfl⟩
      · exact ⟨_, rfl⟩

theorem renders_of_fits {w : World} {gs : List Gathering} (h : ∀ g ∈ gs, Fits w g) :
    ∃ structs groups, Game.renderMatches w gs =
        .ok (wU32 gs.length ++ structs.flatten ++ wU32 gs.length ++ groups.flatten) ∧
      List.Forall₂ (fun g s => g.renderSettingsForBrowse = .ok s) gs structs ∧
      List.Forall₂ (fun g u => g.renderUrlGroupForBrowse (Game.hostUrls w g) = .ok u) gs groups := by
  have hstruct : ∀ g ∈ gs, ∃ s, g.renderSettingsForBrowse = .ok s ∧ g.renderSettingsForBrowse = .ok s := by
    intro g hg
    obtain ⟨s, hs, -⟩ := Browse.renderStruct_view g (g.participants.length - 1) (h g hg).id
      (h g hg).ownerPid (h g hg).listed
    exact ⟨s, hs, hs⟩
  have hgroup : ∀ g ∈ gs, ∃ u, g.renderUrlGroupForBrowse (Game.hostUrls w g) = .ok u ∧
      g.renderUrlGroupForBrowse (Game.hostUrls w g) = .ok u := by
    intro g hg
    obtain ⟨u, hu⟩ := (h g hg).urlGroup
    exact ⟨u, hu, hu⟩
  obtain ⟨structs, hstructs, hs⟩ := Act.mapM_ok hstruct
  obtain ⟨groups, hgroups, hu⟩ := Act.mapM_ok hgroup
  refine ⟨structs, groups, ?_, hs, hu⟩
  unfold Game.renderMatches
  rw [hstructs, hgroups]
  rfl

theorem found_nodup {w : World} (hw : w.lobby.registry.WellIndexed) (f : Game.Filter) :
    ((found w f).map (·.id)).Nodup := by
  have hsub : ((found w f).map (·.id)).Sublist (w.lobby.registry.allGatherings.map (·.id)) :=
    List.filter_sublist.map _
  rw [hw.ids_allGatherings] at hsub
  exact w.lobby.registry.byId.nodup.sublist hsub

/-- **A search is exact**: it answers with the open lobbies that pass its filter, each once, in
the order of the registry. -/
theorem search_exact {e : Event} {w : World} {port : Port} {c : ConnId} {req : Request}
    (hreq : requestOf env w e = some (port, c, req)) (hproto : req.proto = 60)
    (hmethod : req.method = 20) {b : Blob} {f : Game.Filter} (hparams : req.params = b.encode)
    (hb : b.Asks f) (hf : Numeric f) (hfits : ∀ g ∈ found w f, Fits w g) :
    ∃ structs groups, (step env e w).answer = some (Game.ok req (wU32 (found w f).length ++
        structs.flatten ++ wU32 (found w f).length ++ groups.flatten)) ∧
      List.Forall₂ (fun g s => g.renderSettingsForBrowse = .ok s) (found w f) structs ∧
      List.Forall₂ (fun g u => g.renderUrlGroupForBrowse (Game.hostUrls w g) = .ok u) (found w f) groups ∧
      (found w f).Sublist w.lobby.registry.allGatherings ∧
      (w.lobby.registry.WellIndexed → ((found w f).map (·.id)).Nodup) := by
  obtain ⟨structs, groups, hrender, hs, hu⟩ := renders_of_fits hfits
  refine ⟨structs, groups, ?_, hs, hu, List.filter_sublist, fun hw => found_nodup hw f⟩
  rw [search_answer env hreq hproto hmethod, searchMatches_eq hb hf w req hparams]
  show some (RMCDispatcher.answerOf req (do
    let body ← Game.renderMatches w (found w f)
    return Game.ok req body)) = _
  rw [hrender]
  rfl

/-! ## Level 0 -/

/-- Level 0, and any of the others. -/
def levelZero : Game.Filter :=
  { ranked := [], levelId := decimal 0, jobId := [], difficulty := [], gameMode := [] }

def levelZeroBlob : Blob where
  ranked := [0]
  levelId := [0x30, 0]
  jobId := [0]
  difficulty := [0]
  others := [[0], [0x31, 0], [0x31, 0], [0x31, 0]]
  gameMode := [0]
  trailer := wU32 0 ++ wU32 20

theorem levelZeroBlob_asks : levelZeroBlob.Asks levelZero where
  ranked := ⟨by decide, 1, by decide⟩
  levelId := ⟨by decide, 1, by decide⟩
  jobId := ⟨by decide, 1, by decide⟩
  difficulty := ⟨by decide, 1, by decide⟩
  gameMode := ⟨by decide, 1, by decide⟩
  count := rfl
  others := by decide

theorem numeral_nil : Numeral [] where
  digits := fun _ h => (List.not_mem_nil h).elim
  short := Nat.zero_le _

theorem numeral_zero : Numeral (decimal 0) where
  digits := by
    intro c hc
    obtain rfl : c = '0' := List.mem_singleton.mp hc
    rfl
  short := show 1 ≤ 4300 by omega

theorem levelZero_numeric : Numeric levelZero where
  ranked := numeral_nil
  levelId := numeral_zero
  jobId := numeral_nil
  difficulty := numeral_nil
  gameMode := numeral_nil

/-- The guest searches for level 0. -/
def search : Event := .packet .secure (Sample.remote 2) (Sample.data 1 60 20 levelZeroBlob.encode)

def searchRequest : Request := { proto := 60, method := 20, callId := 1, params := levelZeroBlob.encode }

/-- A lobby with three public slots and blank settings. -/
def blankLobby : World := runs (step Sample.env) Browse.blobCreated (Offers.connected true)

theorem search_exact_levelZero : ((found blankLobby levelZero).map (·.id)) = [10000] ∧
    ∃ structs groups : List Bytes, (step Sample.env search blankLobby).answer = some (Game.ok searchRequest
      (wU32 (found blankLobby levelZero).length ++ structs.flatten ++
        wU32 (found blankLobby levelZero).length ++ groups.flatten)) ∧
      List.Forall₂ (fun g s => g.renderSettingsForBrowse = .ok s) (found blankLobby levelZero) structs := by
  have hreq : requestOf Sample.env blankLobby search = some (.secure, 1, searchRequest) := by
    decide +kernel
  have hview : (found blankLobby levelZero).map (fun g => (g.id, g.ownerPid, g.participants.length,
      Game.hostUrls blankLobby g)) = [(10000, 10000, 1, ["prudp:/address=10.0.0.1".toList])] := by
    decide +kernel
  obtain ⟨g, hg, hgv⟩ := List.map_eq_singleton_iff.mp hview
  simp only [Prod.mk.injEq] at hgv
  obtain ⟨hid, howner, hlisted, hurls⟩ := hgv
  refine ⟨by rw [hg, List.map_singleton, hid], ?_⟩
  obtain ⟨structs, groups, hans, hs, -, -, -⟩ := search_exact Sample.env hreq rfl rfl rfl
    levelZeroBlob_asks levelZero_numeric fun g' hg' => by
      rw [hg] at hg'
      rw [List.mem_singleton.mp hg']
      refine ⟨by omega, by omega, by omega, ?_, ?_⟩
      · rw [hurls]
        decide
      · rw [hurls]
        decide +kernel
  exact ⟨structs, groups, hans, hs⟩

/-- The lobby after 2^32 others. -/
def lateLobby : World :=
  let w := Offers.connected true
  { w with lobby := { w.lobby with registry :=
      ({ w.lobby.registry with gatheringIdSeq := 2 ^ 32 }.create 10000 (Sample.remote 1) Browse.blob
        (some 0)).2 } }

/-- It is open and passes, and the search fails: its id does not fit. -/
theorem not_search_exact_late : ((found lateLobby levelZero).map (·.id)) = [2 ^ 32] ∧
    requestOf Sample.env lateLobby search = some (.secure, 1, searchRequest) ∧
    (step Sample.env search lateLobby).answer = some (RMCDispatcher.failed searchRequest 0x80020001) := by
  refine ⟨by decide +kernel, by decide +kernel, by decide +kernel⟩

end Search
end Ghostbusters
