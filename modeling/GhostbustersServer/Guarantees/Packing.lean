import GhostbustersServer.Guarantees.Delivery

/-!
# How a client packs its messages

Each body is cut into fragments, and each fragment is packed with or without
compression and then obfuscated.  None of this shows above `_handle_data`.

    open?_packed     what was packed is what is opened, compressed or not
    packing_hidden   the calls of `on_payload` are the bodies, behind what the buffer held
-/

namespace Ghostbusters
namespace Packing

open Py Delivery PRUDPServer

variable (env : Env)

/-- `zlib.decompress` undoes `zlib.compress`. -/
def ZlibLawful : Prop := ∀ body, env.zlibDecompress (env.zlibCompress body) = some body

variable {env}

/-- The ratio byte of a compressed body is not the 0 of an uncompressed one. -/
theorem unpackCompressed_packCompressed (hz : ZlibLawful env) (body : Bytes) (compress : Bool) :
    Payload.unpackCompressed env (Payload.packCompressed env body compress) = some body := by
  cases compress with
  | false => rfl
  | true =>
    let ratio := max 1 (min 255 (body.length / max 1 (env.zlibCompress body).length))
    have hpos : 1 ≤ ratio := Nat.le_max_left _ _
    have hle : ratio ≤ 255 := Nat.max_le.mpr ⟨by decide, Nat.min_le_left _ _⟩
    have hne : UInt8.ofNat ratio ≠ 0 := by
      intro h
      have h0 : (UInt8.ofNat ratio).toNat = 0 := by rw [h]; rfl
      rw [UInt8.toNat_ofNat'] at h0
      omega
    show (if UInt8.ofNat ratio = 0 then some (env.zlibCompress body)
      else env.zlibDecompress (env.zlibCompress body)) = some body
    rw [if_neg hne]
    exact hz body

theorem packCompressed_ne_nil (body : Bytes) (compress : Bool) :
    Payload.packCompressed env body compress ≠ [] := by
  cases compress <;> exact List.cons_ne_nil _ _

/-- Opening undoes packing and obfuscation. -/
theorem open?_packed (hcr : env.crypto.Lawful) (hz : ZlibLawful env) (body : Bytes) (compress : Bool) :
    Payload.open? env (Payload.wrap env body compress) = some body := by
  unfold Payload.open? Payload.deobfuscate Payload.wrap Payload.obfuscate
  rw [hcr.decrypt_encrypt]
  exact unpackCompressed_packCompressed hz body compress

theorem wrap_ne_nil (hcr : env.crypto.Lawful) (body : Bytes) (compress : Bool) :
    Payload.wrap env body compress ≠ [] := by
  obtain ⟨b, rest, hpack⟩ := List.exists_cons_of_ne_nil (@packCompressed_ne_nil env body compress)
  unfold Payload.wrap
  rw [hpack]
  exact Payload.obfuscate_ne_nil env hcr b rest

variable (env)

/-- A packet that a client makes of a fragment: either packing, and a fragment id above 0
if more follow. -/
structure Packs (pkt : PRUDPPacket) (f : Fragment) : Prop where
  packetId : pkt.packetId < 2 ^ 16
  payload : ∃ compress, pkt.payload = Payload.wrap env f.2 compress
  last : pkt.fragmentId = 0 ↔ f.1 = true

/-- The packets of one body, cut into one or more fragments. -/
structure Sends (pkts : List PRUDPPacket) (fs : List Bytes) : Prop where
  ne_nil : fs ≠ []
  packs : List.Forall₂ (Packs env) pkts (pieces fs)

/-- The bodies that are called with if there is already something in the buffer. -/
def behind (buf : Bytes) : List Bytes → List Bytes
  | [] => []
  | body :: bodies => (buf ++ body) :: bodies

theorem behind_nil (bodies : List Bytes) : behind [] bodies = bodies := by
  cases bodies <;> rfl

variable {env}

theorem Packs.carries (hcr : env.crypto.Lawful) (hz : ZlibLawful env) {pkt : PRUDPPacket}
    {f : Fragment} (h : Packs env pkt f) : CarriesFragment env pkt f := by
  obtain ⟨compress, hpay⟩ := h.payload
  refine ⟨h.packetId, ?_, ?_, h.last⟩
  · rw [hpay]
    exact wrap_ne_nil hcr f.2 compress
  · rw [hpay]
    exact open?_packed hcr hz f.2 compress

/-- **One body**: one call, and the buffer is empty. -/
theorem sends_spec (hcr : env.crypto.Lawful) (hz : ZlibLawful env) (port : Port) (c : ConnId)
    {pkts : List PRUDPPacket} {fs : List Bytes} (h : Sends env pkts fs) {buf : Bytes} {w : World}
    (hw : Receiving env c buf w) :
    delivered c (runs (arrive env port c) pkts w) = delivered c w ++ [buf ++ fs.flatten] ∧
      Receiving env c [] (runs (arrive env port c) pkts w) := by
  obtain ⟨hd, hrec⟩ := delivered_forall env port c (h.packs.imp fun _ _ hp => hp.carries hcr hz) hw
  have hone : assemble buf (pieces fs) = [buf ++ fs.flatten] := by
    have hbody := assemble_body buf fs [] h.ne_nil
    rw [List.append_nil] at hbody
    exact hbody
  rw [hone] at hd
  rw [residue_pieces buf fs h.ne_nil] at hrec
  exact ⟨hd, hrec⟩

theorem sendsAll_spec (hcr : env.crypto.Lawful) (hz : ZlibLawful env) (port : Port) (c : ConnId)
    {pkts : List (List PRUDPPacket)} {bodies : List (List Bytes)}
    (h : List.Forall₂ (Sends env) pkts bodies) {buf : Bytes} {w : World}
    (hw : Receiving env c buf w) :
    delivered c (runs (arrive env port c) pkts.flatten w) =
        delivered c w ++ behind buf (bodies.map List.flatten) ∧
      Receiving env c (if bodies = [] then buf else []) (runs (arrive env port c) pkts.flatten w) := by
  induction h generalizing buf w with
  | nil => exact ⟨(List.append_nil _).symm, hw⟩
  | @cons ps fs pkts bodies hs _ ih =>
    obtain ⟨hd, hrec⟩ := sends_spec hcr hz port c hs hw
    obtain ⟨hds, hrecs⟩ := ih hrec
    rw [List.flatten_cons, runs_append]
    refine ⟨?_, ?_⟩
    · rw [hds, hd, behind_nil, List.append_assoc]
      rfl
    · rw [if_neg (List.cons_ne_nil fs bodies)]
      rw [ite_self] at hrecs
      exact hrecs

/-- **Cutting and packing are hidden.**  However each body is cut into fragments, and
however each fragment is packed, the packets of the first `n` bodies make one call each,
with the body, and leave the buffer empty; what the buffer held before the first of
them is in front of its body. -/
theorem packing_hidden (hcr : env.crypto.Lawful) (hz : ZlibLawful env) (port : Port) (c : ConnId)
    (w : World) (hs : (w.heap c).state = .established)
    (hacks : ∀ id < 2 ^ 16, env.packetEncodes (ackPacket (w.heap c) .data id) = true)
    (pkts : List (List PRUDPPacket)) (bodies : List (List Bytes))
    (h : List.Forall₂ (Sends env) pkts bodies) (n : Nat) :
    delivered c (runs (arrive env port c) (pkts.take n).flatten w) =
        delivered c w ++ behind (w.heap c).fragmentBuffer ((bodies.take n).map List.flatten) ∧
      (bodies.take n ≠ [] →
        ((runs (arrive env port c) (pkts.take n).flatten w).heap c).fragmentBuffer = []) := by
  have hw : Receiving env c (w.heap c).fragmentBuffer w := ⟨hs, rfl, hacks⟩
  obtain ⟨hd, hrec⟩ := sendsAll_spec hcr hz port c (List.forall₂_take n h) hw
  refine ⟨hd, fun hne => ?_⟩
  rw [if_neg hne] at hrec
  exact hrec.buffer

/-! ## A client -/

/-- An environment in which `zlib` does what it does with an empty body; of other
bodies it only undoes what it did. -/
def sampleEnv : Env :=
  { Sample.env with
    zlibCompress := fun body => if body = [] then [0x78, 0x9c, 0x03, 0, 0, 0, 0, 1] else 0 :: body
    zlibDecompress := fun z =>
      match z with
      | 0 :: body => some body
      | z => if z = [0x78, 0x9c, 0x03, 0, 0, 0, 0, 1] then some [] else none }

theorem sampleEnv_lawful : sampleEnv.crypto.Lawful := Sample.env_lawful

theorem sampleEnv_zlib : ZlibLawful sampleEnv := by
  intro body
  cases body <;> rfl

/-- One fragment of a body in a packet. -/
def fragmentPacket (packetId fragmentId : Nat) (fragment : Bytes) (compress : Bool) :
    PRUDPPacket where
  type := .data
  flags := { reliable := true, needAck := true, hasSize := true }
  packetId := packetId
  fragmentId := fragmentId
  payload := Payload.wrap sampleEnv fragment compress

theorem fragmentPacket_packs {packetId fragmentId : Nat} {fragment : Bytes} {compress last : Bool}
    (hid : packetId < 2 ^ 16) (hl : fragmentId = 0 ↔ last = true) :
    Packs sampleEnv (fragmentPacket packetId fragmentId fragment compress) (last, fragment) :=
  ⟨hid, ⟨compress, rfl⟩, hl⟩

/-- A body in three fragments, the second of them empty and compressed. -/
theorem packing_hidden_threeFragments :
    delivered 0 (runs (arrive sampleEnv .secure 0)
        [fragmentPacket 1 2 [0x47] false, fragmentPacket 2 1 [] true, fragmentPacket 3 0 [0x42] false]
        (Sample.world [Sample.connection .secure 1 10000])) = [[0x47, 0x42]] :=
  (packing_hidden sampleEnv_lawful sampleEnv_zlib .secure 0 _ rfl
    (Sample.env_acks _) _ [[[0x47], [], [0x42]]]
    (.cons ⟨by decide, .cons (fragmentPacket_packs (by decide) (by decide))
      (.cons (fragmentPacket_packs (by decide) (by decide))
        (.cons (fragmentPacket_packs (by decide) (by decide)) .nil))⟩ .nil) 1).1

/-- A connection on which a client has sent the first fragment of a body, and no more. -/
def unfinished : World :=
  Sample.world [{ Sample.connection .secure 1 10000 with fragmentBuffer := [0x47] }]

/-- The next body is delivered with that fragment in front. -/
theorem not_hidden_unfinished :
    (unfinished.heap 0).state = .established ∧
    List.Forall₂ (Sends sampleEnv) [[fragmentPacket 2 0 [0x42] false]] [[[0x42]]] ∧
    delivered 0 (runs (arrive sampleEnv .secure 0) [fragmentPacket 2 0 [0x42] false] unfinished) ≠
      delivered 0 unfinished ++ [[0x42]] := by
  have hsends : Sends sampleEnv [fragmentPacket 2 0 [0x42] false] [[0x42]] :=
    ⟨by decide, .cons (fragmentPacket_packs (by decide) (by decide)) .nil⟩
  have hw : Receiving sampleEnv 0 [0x47] unfinished := ⟨rfl, rfl, Sample.env_acks _⟩
  refine ⟨rfl, .cons hsends .nil, ?_⟩
  rw [(sends_spec sampleEnv_lawful sampleEnv_zlib .secure 0 hsends hw).1]
  decide

end Packing
end Ghostbusters
