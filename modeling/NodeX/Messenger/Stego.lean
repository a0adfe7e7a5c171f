/-
`stego.rs`: a contact card in the lowest bits of an image. The card is sealed and framed, the bits of the frame go into
the red, green and blue channels of one pixel after the other, and are read back in the same order: ten bytes first, for
the length, then all of it.
-/
import NodeX.Core.AddrParse
import NodeX.Core.Buffer
import NodeX.Core.Crypto
import NodeX.Core.JsonText
import NodeX.Core.LowBits
import NodeX.Lib.Bits
import NodeX.Messenger.FileChunks

namespace NodeX.Messenger.StegoCarrier

open NodeX.Lib

/-! ## Images -/

/-- `ImageBuffer<Rgba<u8>, Vec<u8>>`: four bytes for a pixel, line by line. -/
structure RgbaImage where
  width : UInt32
  height : UInt32
  data : Bytes
  length_data : data.length = 4 * (height.toNat * width.toNat)
  fits : data.length < 2 ^ 63
deriving DecidableEq

/-- What the `image` package does. -/
structure ImageCodec where
  DynamicImage : Type
  dimensions : DynamicImage → UInt32 × UInt32
  toRgba8 : DynamicImage → RgbaImage
  /-- `PngEncoder::write_image` of bytes, width and height -/
  writeImage : Bytes → UInt32 → UInt32 → Except String Bytes
  loadFromMemory : Bytes → Except String DynamicImage

/-- The places of the loops: lines, pixels of a line, and the channels R, G and B. -/
def walk (width height : Nat) : List (Nat × Nat × Nat) :=
  (List.range height).flatMap fun y => (List.range width).flatMap fun x => (List.range 3).map fun c => (x, y, c)

/-- Where a channel stands; `get_pixel` panics off the image. -/
def channelAt? (width height : Nat) (place : Nat × Nat × Nat) : Option Nat :=
  if place.1 < width ∧ place.2.1 < height then some (4 * (place.2.1 * width + place.1) + place.2.2) else none

/-- The loop that writes, from a bit on. -/
def writeBits (width height : Nat) (raw : Bytes) (needed : Nat) :
    List (Nat × Nat × Nat) → Nat → Bytes → Outcome Bytes
  | [], _, data => .ok data
  | place :: rest, bitIdx, data =>
    match channelAt? width height place with
    | none => .panic
    | some i =>
      if needed ≤ bitIdx then .ok data
      else
        match raw[bitIdx / 8]?, data[i]? with
        | some b, some v =>
          let bit := (b >>> UInt8.ofNat (7 - bitIdx % 8)) &&& 1
          writeBits width height raw needed rest (bitIdx + 1) (data.set i ((v &&& 0xFE) ||| bit))
        | _, _ => .panic

/-- The loop that reads, from a bit on, with what is read so far. -/
def readBits (width height : Nat) (data : Bytes) (needed : Nat) :
    List (Nat × Nat × Nat) → Nat → Bytes → Outcome Bytes
  | [], _, bytes => .ok bytes
  | place :: rest, bitIdx, bytes =>
    match channelAt? width height place with
    | none => .panic
    | some i =>
      if needed ≤ bitIdx then .ok bytes
      else
        match data[i]?, bytes[bitIdx / 8]? with
        | some v, some b =>
          let bit := v &&& 1
          readBits width height data needed rest (bitIdx + 1)
            (bytes.set (bitIdx / 8) (b ||| (bit <<< UInt8.ofNat (7 - bitIdx % 8))))
        | _, _ => .panic

/-! ## Cards -/

/-- The card, with all that its addresses hold. -/
structure ContactCard where
  userIdHex : String
  displayName : String
  bio : String
  ed25519PubHex : String
  x25519PubHex : String
  endpoints : List StdSocketAddr
  timestamp : UInt64
  signatureHex : String
deriving DecidableEq

/-- `serde_json` of a card. -/
structure CardJson where
  print : ContactCard → Except String Bytes
  parse : Bytes → Except String ContactCard

/-- What `getrandom` gives. -/
structure StegoDraw where
  salt : Except String { s : Bytes // s.length = 32 }
  nonce : Except String { n : Bytes // n.length = 12 }

def stegoMagic : Bytes := utf8 "NXSTG1"

variable (C : Crypto) (crc32 : Bytes → UInt32) (J : CardJson) (I : ImageCodec)

def deriveKey (passphrase : Option String) (salt : Bytes) : Bytes :=
  C.sha256 (utf8 "NODEX_STEGO_CARRIER_KEY_V1" ++ salt ++ (passphrase.map utf8).getD [])

/-- The frame in front of its checksum. -/
def framed (salt nonce ciphertext : Bytes) : Bytes :=
  stegoMagic ++ toBe 4 ciphertext.length ++ salt ++ nonce ++ ciphertext

def rawPayload (salt nonce ciphertext : Bytes) : Bytes :=
  framed salt nonce ciphertext ++ toBe 4 (crc32 (framed salt nonce ciphertext)).toNat

def sealedCard (passphrase : Option String) (salt nonce json : Bytes) : Bytes :=
  C.aeadEncrypt (deriveKey C passphrase salt) nonce [] json

def embedContactIntoImage (inputImage : I.DynamicImage) (contact : ContactCard) (passphrase : Option String)
    (d : StegoDraw) : Outcome Bytes :=
  match J.print contact with
  | .error e => .err ("Failed to serialize stego contact: " ++ e)
  | .ok json =>
    match d.salt with
    | .error e => .err e
    | .ok salt =>
      match d.nonce with
      | .error e => .err e
      | .ok nonce =>
        let raw := rawPayload crc32 salt.1 nonce.1 (sealedCard C passphrase salt.1 nonce.1 json)
        let totalBitsNeeded := raw.length * 8
        let (width, height) := I.dimensions inputImage
        let totalPixels := width.toNat * height.toNat
        if totalPixels * 3 < totalBitsNeeded then
          .err ("Image too small for stego payload. Need at least " ++ toString ((totalBitsNeeded + 2) / 3) ++
            " pixels, image has " ++ toString totalPixels ++ ".")
        else
          let rgba := I.toRgba8 inputImage
          (writeBits rgba.width.toNat rgba.height.toNat raw totalBitsNeeded (walk width.toNat height.toNat) 0
            rgba.data).bind fun data =>
              match I.writeImage data width height with
              | .error e => .err ("Failed to encode output PNG: " ++ e)
              | .ok png => .ok png

/-- The frame that was read, of a payload of this length. -/
def openPayload (passphrase : Option String) (payloadLen : Nat) (full : Bytes) : Outcome ContactCard :=
  let totalPacketSize := 6 + 4 + 32 + 12 + payloadLen + 4
  match slice? full 0 (totalPacketSize - 4), u32? full (totalPacketSize - 4) with
  | some dataPart, some expectedCrc =>
    if crc32 dataPart ≠ expectedCrc then
      .err "Stego carrier CRC32 checksum mismatch (image may be compressed or modified)"
    else
      match slice? full 10 32, slice? full 42 12, slice? full 54 payloadLen with
      | some salt, some nonce, some ciphertext =>
        match C.aeadDecrypt (deriveKey C passphrase salt) nonce [] ciphertext with
        | none => .err "Stego decryption failed (invalid passphrase or corrupted key)"
        | some plaintext =>
          match J.parse plaintext with
          | .error e => .err ("Failed to parse decrypted stego contact: " ++ e)
          | .ok contact => .ok contact
      | _, _, _ => .panic
  | _, _ => .panic

def extractContactFromImage (imageBytes : Bytes) (passphrase : Option String) : Outcome ContactCard :=
  match I.loadFromMemory imageBytes with
  | .error e => .err ("Failed to read image bytes: " ++ e)
  | .ok img =>
    let (width, height) := I.dimensions img
    let rgba := I.toRgba8 img
    let read (needed : Nat) (bytes : Bytes) : Outcome Bytes :=
      readBits rgba.width.toNat rgba.height.toNat rgba.data needed (walk width.toNat height.toNat) 0 bytes
    (read (10 * 8) (List.replicate 10 0)).bind fun header =>
      match slice? header 0 6, u32? header 6 with
      | some magic, some len =>
        let payloadLen := len.toNat
        if magic ≠ stegoMagic then .err "No NodeX Stego-Carrier signature found in image"
        else if payloadLen > 1000000 then .err "Corrupted stego payload length"
        else
          let totalPacketSize := 6 + 4 + 32 + 12 + payloadLen + 4
          let totalBits := totalPacketSize * 8
          let totalPixels := width.toNat * height.toNat
          if totalBits > totalPixels * 3 then .err "Stego payload exceeds image capacity"
          else (read totalBits (List.replicate totalPacketSize 0)).bind (openPayload C crc32 J passphrase payloadLen)
      | _, _ => .panic

/-! ## The walk -/

/-- The place of a bit in the data of an image. -/
def placeOf (k : Nat) : Nat := 4 * (k / 3) + k % 3

/-- The place of the loops that comes as this one. -/
def stepOf (width k : Nat) : Nat × Nat × Nat := (k % (width * 3) / 3, k / (width * 3), k % (width * 3) % 3)

theorem walk_eq (width height : Nat) :
    walk width height = (List.range (height * (width * 3))).map (stepOf width) := by
  have hline : ∀ y : Nat, ((List.range width).flatMap fun x => (List.range 3).map fun c => (x, y, c)) =
      (List.range (width * 3)).map fun k => (k / 3, y, k % 3) :=
    fun y => range_flatMap_map (fun x c => (x, y, c)) 3 width
  unfold walk
  simp only [hline]
  exact range_flatMap_map (fun y k => (k / 3, y, k % 3)) (width * 3) height

theorem channelAt?_stepOf {width height k : Nat} (hk : k < height * (width * 3)) :
    channelAt? width height (stepOf width k) = some (placeOf k) := by
  have hwidth : 0 < width := by
    rcases Nat.eq_zero_or_pos width with rfl | h
    · simp at hk
    · exact h
  have hx : k % (width * 3) / 3 < width := by
    have hmod := Nat.mod_lt k (show 0 < width * 3 by omega)
    omega
  have hy : k / (width * 3) < height := Nat.div_lt_of_lt_mul (by rwa [Nat.mul_comm])
  have hsplit := Nat.div_add_mod k (width * 3)
  have hline : k / (width * 3) * width + k % (width * 3) / 3 = k / 3 := by
    have hmul : width * 3 * (k / (width * 3)) = 3 * (k / (width * 3) * width) := by ring
    omega
  have hchannel : k % (width * 3) % 3 = k % 3 := Nat.mod_mod_of_dvd k (Dvd.intro_left width rfl)
  unfold channelAt? stepOf placeOf
  dsimp only
  rw [if_pos ⟨hx, hy⟩, hline, hchannel]

/-! ## Writing -/

/-- The bit that goes into a place. -/
def bitOf (i : Nat) : Nat := 3 * (i / 4) + i % 4

/-- A byte of the data, with its bit of `raw` where that is below the `n`-th. -/
def carry (raw : Bytes) (n i : Nat) (v : UInt8) : UInt8 :=
  if i % 4 < 3 ∧ bitOf i < n then
    (v &&& 0xFE) ||| ((raw.getD (bitOf i / 8) 0 >>> UInt8.ofNat (7 - bitOf i % 8)) &&& 1)
  else v

def written (raw : Bytes) (n : Nat) (data : Bytes) : Bytes := data.mapIdx (carry raw n)

variable {raw data : Bytes}

theorem length_written (raw : Bytes) (n : Nat) (data : Bytes) : (written raw n data).length = data.length :=
  List.length_mapIdx

theorem getElem?_written (raw : Bytes) (n : Nat) (data : Bytes) (i : Nat) :
    (written raw n data)[i]? = data[i]?.map (carry raw n i) := List.getElem?_mapIdx

theorem bitOf_placeOf (k : Nat) : bitOf (placeOf k) = k := by
  unfold bitOf placeOf
  omega

theorem placeOf_eq_iff {k i : Nat} : placeOf k = i ↔ i % 4 < 3 ∧ bitOf i = k := by
  unfold placeOf bitOf
  omega

theorem carry_zero (raw : Bytes) (i : Nat) (v : UInt8) : carry raw 0 i v = v :=
  if_neg fun h => Nat.not_lt_zero _ h.2

theorem written_zero (raw data : Bytes) : written raw 0 data = data := by
  refine List.ext_getElem? fun i => ?_
  rw [getElem?_written, funext (carry_zero raw i), Option.map_id']

/-- One turn of the loop. -/
theorem set_written {k : Nat} {b v : UInt8} (hb : raw[k / 8]? = some b) (hv : data[placeOf k]? = some v) :
    (written raw k data).set (placeOf k) ((v &&& 0xFE) ||| ((b >>> UInt8.ofNat (7 - k % 8)) &&& 1)) =
      written raw (k + 1) data := by
  obtain ⟨hlt, -⟩ := List.getElem?_eq_some_iff.1 hv
  refine List.ext_getElem? fun i => ?_
  rw [List.getElem?_set, getElem?_written, getElem?_written, length_written]
  by_cases h : placeOf k = i
  · subst h
    have hbyte : raw.getD (k / 8) 0 = b := by rw [List.getD_eq_getElem?_getD, hb, Option.getD_some]
    have hplace := placeOf_eq_iff.1 (Eq.refl (placeOf k))
    rw [if_pos rfl, if_pos hlt, hv, Option.map_some, carry, bitOf_placeOf, if_pos ⟨hplace.1, Nat.lt_succ_self k⟩,
      hbyte]
  · have hne : ¬ (i % 4 < 3 ∧ bitOf i = k) := fun hik => h (placeOf_eq_iff.2 hik)
    have hcond : (i % 4 < 3 ∧ bitOf i < k) ↔ (i % 4 < 3 ∧ bitOf i < k + 1) := by omega
    have hcarry : carry raw k i = carry raw (k + 1) i := by
      funext v
      unfold carry
      rw [if_congr hcond rfl rfl]
    rw [if_neg h, hcarry]

/-- A byte whose bit comes later is as it was. -/
theorem getElem?_written_placeOf (raw : Bytes) (k : Nat) (data : Bytes) :
    (written raw k data)[placeOf k]? = data[placeOf k]? := by
  have hlater : carry raw k (placeOf k) = id := by
    funext v
    unfold carry
    rw [bitOf_placeOf]
    exact if_neg fun h => Nat.lt_irrefl k h.2
  rw [getElem?_written, hlater, Option.map_id_fun, id]

theorem writeBits_range' {width height needed : Nat} (hneeded : needed = raw.length * 8)
    (hfits : needed ≤ height * (width * 3)) (hdata : data.length = 4 * (height * width)) :
    ∀ n k, k + n = height * (width * 3) → k ≤ needed →
      writeBits width height raw needed ((List.range' k n).map (stepOf width)) k (written raw k data) =
        .ok (written raw needed data)
  | 0, k, hn, hk => by
    obtain rfl : k = needed := by omega
    rfl
  | n + 1, k, hn, hk => by
    rw [List.range'_succ, List.map_cons, writeBits, channelAt?_stepOf (by omega)]
    dsimp only
    by_cases hend : needed ≤ k
    · obtain rfl : k = needed := by omega
      rw [if_pos hend]
    · have hb : k / 8 < raw.length := by omega
      have hmul : height * (width * 3) = 3 * (height * width) := by ring
      have hv : placeOf k < data.length := by
        unfold placeOf
        omega
      rw [if_neg hend, List.getElem?_eq_getElem hb, getElem?_written_placeOf, List.getElem?_eq_getElem hv]
      dsimp only
      rw [set_written (List.getElem?_eq_getElem hb) (List.getElem?_eq_getElem hv)]
      exact writeBits_range' hneeded hfits hdata n (k + 1) (by omega) (by omega)

/-- The loop writes every bit of a frame for which there is room. -/
theorem writeBits_walk {width height : Nat} (hfits : raw.length * 8 ≤ height * (width * 3))
    (hdata : data.length = 4 * (height * width)) :
    writeBits width height raw (raw.length * 8) (walk width height) 0 data =
      .ok (written raw (raw.length * 8) data) := by
  rw [walk_eq, List.range_eq_range']
  conv_lhs => rw [← written_zero raw data]
  exact writeBits_range' rfl hfits hdata _ 0 (Nat.zero_add _) (Nat.zero_le _)

/-! ## Reading -/

theorem readBits_range' {width height needed : Nat} (hdata : data.length = 4 * (height * width)) :
    ∀ n k (bytes : Bytes), k + n = height * (width * 3) → needed = bytes.length * 8 →
      ∃ bytes', readBits width height data needed ((List.range' k n).map (stepOf width)) k bytes = .ok bytes' ∧
        bytes'.length = bytes.length ∧ ∀ m, bitAt bytes' m =
          (bitAt bytes m || (decide (k ≤ m ∧ m < needed ∧ m < k + n) && lowBit (data.getD (placeOf m) 0)))
  | 0, k, bytes, _, _ => by
    refine ⟨bytes, rfl, rfl, fun m => ?_⟩
    have hm : ¬ (k ≤ m ∧ m < needed ∧ m < k + 0) := by omega
    rw [decide_eq_false hm, Bool.false_and, Bool.or_false]
  | n + 1, k, bytes, hn, hneeded => by
    rw [List.range'_succ, List.map_cons, readBits, channelAt?_stepOf (by omega)]
    dsimp only
    by_cases hend : needed ≤ k
    · rw [if_pos hend]
      refine ⟨bytes, rfl, rfl, fun m => ?_⟩
      have hm : ¬ (k ≤ m ∧ m < needed ∧ m < k + (n + 1)) := by omega
      rw [decide_eq_false hm, Bool.false_and, Bool.or_false]
    · have hb : k / 8 < bytes.length := by omega
      have hmul : height * (width * 3) = 3 * (height * width) := by ring
      have hv : placeOf k < data.length := by
        unfold placeOf
        omega
      rw [if_neg hend, List.getElem?_eq_getElem hb, List.getElem?_eq_getElem hv]
      dsimp only
      have hset : ∀ b, needed = (bytes.set (k / 8) b).length * 8 := by
        intro b
        rw [List.length_set]
        exact hneeded
      obtain ⟨bytes', hread, hlen, hbits⟩ := readBits_range' hdata n (k + 1) _ (by omega) (hset _)
      refine ⟨bytes', hread, hlen.trans (List.length_set ..), fun m => ?_⟩
      rw [hbits, bitAt_set (List.getElem?_eq_getElem hb)]
      have hplace : data.getD (placeOf k) 0 = data[placeOf k] := by
        rw [List.getD_eq_getElem?_getD, List.getElem?_eq_getElem hv, Option.getD_some]
      by_cases hm : m = k
      · subst hm
        have hnot : ¬ (m + 1 ≤ m ∧ m < needed ∧ m < m + 1 + n) := by omega
        have hin : m ≤ m ∧ m < needed ∧ m < m + (n + 1) := by omega
        rw [hplace, decide_eq_false hnot, decide_eq_true hin, decide_eq_true rfl, Bool.false_and, Bool.or_false]
      · have hcond : (k + 1 ≤ m ∧ m < needed ∧ m < k + 1 + n) ↔ (k ≤ m ∧ m < needed ∧ m < k + (n + 1)) := by
          omega
        rw [decide_eq_false hm, Bool.false_and, Bool.or_false, decide_eq_decide.2 hcond]

/-- The loop reads the low bits in order, as far as the image goes. -/
theorem readBits_walk {width height : Nat} (hdata : data.length = 4 * (height * width)) (n : Nat) :
    ∃ bytes, readBits width height data (n * 8) (walk width height) 0 (List.replicate n 0) = .ok bytes ∧
      bytes.length = n ∧ ∀ m, bitAt bytes m =
        (decide (m < n * 8 ∧ m < height * (width * 3)) && lowBit (data.getD (placeOf m) 0)) := by
  have hneeded : n * 8 = (List.replicate n (0 : UInt8)).length * 8 := by rw [List.length_replicate]
  obtain ⟨bytes, hread, hlen, hbits⟩ :=
    readBits_range' hdata (height * (width * 3)) 0 (List.replicate n 0) (Nat.zero_add _) hneeded
  refine ⟨bytes, ?_, by rw [hlen, List.length_replicate], fun m => ?_⟩
  · rw [walk_eq, List.range_eq_range']
    exact hread
  · have hcond : (0 ≤ m ∧ m < n * 8 ∧ m < 0 + height * (width * 3)) ↔ (m < n * 8 ∧ m < height * (width * 3)) := by
      omega
    rw [hbits, bitAt_replicate, Bool.false_or, decide_eq_decide.2 hcond]

theorem lowBit_written {k n : Nat} (hk : k < n) (hplace : placeOf k < data.length) :
    lowBit ((written raw n data).getD (placeOf k) 0) = bitAt raw k := by
  have h3 := (placeOf_eq_iff.1 (Eq.refl (placeOf k))).1
  rw [List.getD_eq_getElem?_getD, getElem?_written, List.getElem?_eq_getElem hplace, Option.map_some, Option.getD_some,
    carry, bitOf_placeOf, if_pos ⟨h3, hk⟩, lowBit_set _ _ (by omega)]
  rfl

/-- What was written is read: the front of it, for a reader of fewer bytes. -/
theorem readBits_written {width height n : Nat} (hfits : raw.length * 8 ≤ height * (width * 3))
    (hdata : data.length = 4 * (height * width)) (hn : n ≤ raw.length) :
    readBits width height (written raw (raw.length * 8) data) (n * 8) (walk width height) 0 (List.replicate n 0) =
      .ok (raw.take n) := by
  have hwritten := (length_written raw (raw.length * 8) data).trans hdata
  obtain ⟨bytes, hread, hlen, hbits⟩ := readBits_walk hwritten n
  have htake : (raw.take n).length = n := List.length_take_of_le hn
  rw [hread, eq_of_bitAt (hlen.trans htake.symm) fun m hm => ?_]
  have hmul : height * (width * 3) = 3 * (height * width) := by ring
  have hplace : placeOf m < data.length := by
    unfold placeOf
    omega
  have hin : m < n * 8 ∧ m < height * (width * 3) := by omega
  rw [hbits, decide_eq_true hin, Bool.true_and, lowBit_written (by omega) hplace, bitAt_take (by omega)]

/-! ## Changed bytes -/

/-- Nothing but the lowest bits of R, G and B is changed, and those in the first pixels only, three bits to a pixel. -/
structure LowBitsOnly (before after : RgbaImage) (bits : Nat) : Prop where
  width : after.width = before.width
  height : after.height = before.height
  bytes : ∀ (i : Nat) (v v' : UInt8), before.data[i]? = some v → after.data[i]? = some v' →
    v' = v ∨ i % 4 < 3 ∧ i / 4 < (bits + 2) / 3 ∧ v' &&& 0xFE = v &&& 0xFE

theorem carry_or (raw : Bytes) (n i : Nat) (v : UInt8) : carry raw n i v = v ∨
    i % 4 < 3 ∧ i / 4 < (n + 2) / 3 ∧ carry raw n i v &&& 0xFE = v &&& 0xFE := by
  unfold carry
  split
  · rename_i h
    refine Or.inr ⟨h.1, ?_, high_set v _⟩
    unfold bitOf at h
    omega
  · exact Or.inl rfl

/-! ## Frames -/

variable {C crc32 J I}

/-- What the `image` package documents: an image has the size of its RGBA form, and PNG loses nothing. -/
structure ImageCodec.Lossless (I : ImageCodec) : Prop where
  dimensions : ∀ img, I.dimensions img = ((I.toRgba8 img).width, (I.toRgba8 img).height)
  load : ∀ (rgba : RgbaImage) (png : Bytes), I.writeImage rgba.data rgba.width rgba.height = .ok png →
    ∃ img, I.loadFromMemory png = .ok img ∧ I.toRgba8 img = rgba

/-- A cipher that adds a tag of sixteen bytes and opens nothing that is cut short. -/
structure IdealCipher (C : Crypto) : Prop where
  sha256_length : ∀ bs, (C.sha256 bs).length = 32
  addsTag : AddsTag C
  cut : ∀ key nonce plaintext : Bytes, key.length = 32 → nonce.length = 12 → plaintext.length < 2 ^ 64 →
    ∀ n < (C.aeadEncrypt key nonce [] plaintext).length,
      C.aeadDecrypt key nonce [] ((C.aeadEncrypt key nonce [] plaintext).take n) = none

theorem length_stegoMagic : stegoMagic.length = 6 := by decide

section Frame

variable {salt nonce : Bytes} (hsalt : salt.length = 32) (hnonce : nonce.length = 12) (ciphertext : Bytes)

include hsalt hnonce

theorem length_framed : (framed salt nonce ciphertext).length = 54 + ciphertext.length := by
  simp only [framed, List.length_append, length_stegoMagic, length_toBe, hsalt, hnonce]

theorem length_rawPayload (crc32 : Bytes → UInt32) :
    (rawPayload crc32 salt nonce ciphertext).length = 58 + ciphertext.length := by
  rw [rawPayload, List.length_append, length_framed hsalt hnonce, length_toBe]
  omega

/-- Where the parts of a frame stand. -/
structure Framed (crc32 : Bytes → UInt32) (salt nonce ciphertext raw : Bytes) : Prop where
  crc : At raw (54 + ciphertext.length) (toBe 4 (crc32 (framed salt nonce ciphertext)).toNat)
  front : At raw 0 (framed salt nonce ciphertext)
  magic : At raw 0 stegoMagic
  count : At raw 6 (toBe 4 ciphertext.length)
  ciphertext : At raw 54 ciphertext
  nonce : At raw 42 nonce
  salt : At raw 10 salt

theorem framed_rawPayload (crc32 : Bytes → UInt32) :
    Framed crc32 salt nonce ciphertext (rawPayload crc32 salt nonce ciphertext) := by
  have hwhole := at_zero_self (rawPayload crc32 salt nonce ciphertext)
  have hparts := hwhole
  unfold rawPayload at hparts
  obtain ⟨hframed, hcrc⟩ := at_append.1 hparts
  have hrest := hframed
  unfold framed at hrest
  obtain ⟨hrest, hciphertext⟩ := at_append.1 hrest
  obtain ⟨hrest, hn⟩ := at_append.1 hrest
  obtain ⟨hrest, hs⟩ := at_append.1 hrest
  obtain ⟨hmagic, hlen⟩ := at_append.1 hrest
  simp only [List.length_append, length_stegoMagic, length_toBe, hsalt, hnonce, Nat.zero_add, Nat.reduceAdd]
    at hlen hs hn hciphertext
  rw [Nat.zero_add, length_framed hsalt hnonce] at hcrc
  exact ⟨hcrc, hframed, hmagic, hlen, hciphertext, hn, hs⟩

/-- A frame that was read in full is opened. -/
theorem openPayload_rawPayload (passphrase : Option String) :
    openPayload C crc32 J passphrase ciphertext.length (rawPayload crc32 salt nonce ciphertext) =
      match C.aeadDecrypt (deriveKey C passphrase salt) nonce [] ciphertext with
      | none => .err "Stego decryption failed (invalid passphrase or corrupted key)"
      | some plaintext =>
        match J.parse plaintext with
        | .error e => .err ("Failed to parse decrypted stego contact: " ++ e)
        | .ok contact => .ok contact := by
  have hparts := framed_rawPayload hsalt hnonce ciphertext crc32
  have htotal : 6 + 4 + 32 + 12 + ciphertext.length + 4 - 4 = 54 + ciphertext.length := by omega
  unfold openPayload
  dsimp only
  rw [htotal, slice?_eq_some_iff_at.2 ⟨length_framed hsalt hnonce ciphertext, hparts.front⟩, u32?_eq_some.2 hparts.crc]
  dsimp only
  rw [if_neg (by simp), slice?_eq_some_iff_at.2 ⟨hsalt, hparts.salt⟩, slice?_eq_some_iff_at.2 ⟨hnonce, hparts.nonce⟩,
    slice?_eq_some_iff_at.2 ⟨rfl, hparts.ciphertext⟩]

/-- What is read of a frame up to a shorter length does not open. -/
theorem openPayload_take {passphrase : Option String} {n : Nat} (hn : n < ciphertext.length)
    (hcut : C.aeadDecrypt (deriveKey C passphrase salt) nonce [] (ciphertext.take n) = none) :
    ∃ e, openPayload C crc32 J passphrase n ((rawPayload crc32 salt nonce ciphertext).take (58 + n)) = .err e := by
  have hlen := length_rawPayload hsalt hnonce ciphertext crc32
  have hparts := framed_rawPayload hsalt hnonce ciphertext crc32
  generalize rawPayload crc32 salt nonce ciphertext = raw at hlen hparts
  have hfull : (raw.take (58 + n)).length = 58 + n := by
    rw [List.length_take]
    omega
  have htake : (ciphertext.take n).length = n := List.length_take_of_le hn.le
  have hfront : At raw 54 (ciphertext.take n) := by
    have happ := hparts.ciphertext
    rw [← List.take_append_drop n ciphertext] at happ
    exact (at_append.1 happ).1
  have htotal : 6 + 4 + 32 + 12 + n + 4 - 4 = 54 + n := by omega
  obtain ⟨dataPart, hdata⟩ := exists_slice? (show 0 + (54 + n) ≤ (raw.take (58 + n)).length by omega)
  obtain ⟨crc, hcrc⟩ := exists_u32? (show 54 + n + 4 ≤ (raw.take (58 + n)).length by omega)
  unfold openPayload
  dsimp only
  rw [htotal, hdata, hcrc]
  dsimp only
  split
  · exact ⟨_, rfl⟩
  · rw [slice?_eq_some_iff_at.2 ⟨hsalt, at_take hparts.salt (by omega)⟩,
      slice?_eq_some_iff_at.2 ⟨hnonce, at_take hparts.nonce (by omega)⟩,
      slice?_eq_some_iff_at.2 ⟨htake, at_take hfront (by omega)⟩]
    dsimp only
    rw [hcut]
    exact ⟨_, rfl⟩

end Frame

/-- A frame of the length that was announced is opened or refused. -/
theorem openPayload_ne_panic (passphrase : Option String) {n : Nat} {full : Bytes} (h : full.length = 58 + n) :
    openPayload C crc32 J passphrase n full ≠ .panic := by
  obtain ⟨dataPart, hdata⟩ := exists_slice? (show 0 + (6 + 4 + 32 + 12 + n + 4 - 4) ≤ full.length by omega)
  obtain ⟨crc, hcrc⟩ := exists_u32? (show 6 + 4 + 32 + 12 + n + 4 - 4 + 4 ≤ full.length by omega)
  obtain ⟨salt, hsalt⟩ := exists_slice? (show 10 + 32 ≤ full.length by omega)
  obtain ⟨nonce, hnonce⟩ := exists_slice? (show 42 + 12 ≤ full.length by omega)
  obtain ⟨ciphertext, hciphertext⟩ := exists_slice? (show 54 + n ≤ full.length by omega)
  unfold openPayload
  dsimp only
  rw [hdata, hcrc]
  dsimp only
  split
  · exact fun h => by cases h
  · rw [hsalt, hnonce, hciphertext]
    dsimp only
    split
    · exact fun h => by cases h
    · split <;> exact fun h => by cases h

/-! ## Extraction -/

/-- Extraction panics on no bytes. -/
theorem extractContactFromImage_ne_panic (hI : I.Lossless) (imageBytes : Bytes) (passphrase : Option String) :
    extractContactFromImage C crc32 J I imageBytes passphrase ≠ .panic := by
  unfold extractContactFromImage
  split
  · exact fun h => by cases h
  rename_i img hload
  rw [hI.dimensions img]
  dsimp only
  have hdata := (I.toRgba8 img).length_data
  obtain ⟨header, hread, hheader, -⟩ := readBits_walk hdata 10
  obtain ⟨magic, hmagic⟩ := exists_slice? (show 0 + 6 ≤ header.length by omega)
  obtain ⟨len, hlen⟩ := exists_u32? (show 6 + 4 ≤ header.length by omega)
  rw [hread]
  dsimp only [Outcome.bind]
  rw [hmagic, hlen]
  dsimp only
  split
  · exact fun h => by cases h
  split
  · exact fun h => by cases h
  split
  · exact fun h => by cases h
  obtain ⟨full, hreadFull, hfull, -⟩ := readBits_walk hdata (6 + 4 + 32 + 12 + len.toNat + 4)
  rw [hreadFull]
  exact openPayload_ne_panic passphrase (by omega)

/-- The image with a frame in it. -/
def RgbaImage.withFrame (img : RgbaImage) (raw : Bytes) : RgbaImage where
  width := img.width
  height := img.height
  data := written raw (raw.length * 8) img.data
  length_data := (length_written ..).trans img.length_data
  fits := (length_written raw (raw.length * 8) img.data).symm ▸ img.fits

theorem lowBitsOnly_withFrame (img : RgbaImage) (raw : Bytes) :
    LowBitsOnly img (img.withFrame raw) (raw.length * 8) := by
  refine ⟨rfl, rfl, fun i v v' hv hv' => ?_⟩
  have hcarry : (img.withFrame raw).data[i]? = img.data[i]?.map (carry raw (raw.length * 8) i) := getElem?_written ..
  rw [hcarry, hv, Option.map_some, Option.some.injEq] at hv'
  subst hv'
  exact carry_or raw _ i v

/-- There are as many channels as bits. -/
def RgbaImage.HasRoom (img : RgbaImage) (raw : Bytes) : Prop :=
  raw.length * 8 ≤ img.width.toNat * img.height.toNat * 3

theorem RgbaImage.HasRoom.le {img : RgbaImage} {raw : Bytes} (h : img.HasRoom raw) :
    raw.length * 8 ≤ img.height.toNat * (img.width.toNat * 3) := by
  have hmul : img.height.toNat * (img.width.toNat * 3) = img.width.toNat * img.height.toNat * 3 := by ring
  unfold HasRoom at h
  omega

section Extract

variable {salt nonce ciphertext : Bytes} {png : Bytes} {img : I.DynamicImage} {rgba : RgbaImage}

/-- What is extracted from an image with a frame in it. The length has four bytes in the frame, and the reader has a
limit for it. -/
theorem extractContactFromImage_withFrame (hI : I.Lossless) (hsalt : salt.length = 32) (hnonce : nonce.length = 12)
    (passphrase : Option String) (hroom : rgba.HasRoom (rawPayload crc32 salt nonce ciphertext))
    (hload : I.loadFromMemory png = .ok img)
    (himg : I.toRgba8 img = rgba.withFrame (rawPayload crc32 salt nonce ciphertext)) :
    extractContactFromImage C crc32 J I png passphrase =
      if ciphertext.length % 2 ^ 32 > 1000000 then .err "Corrupted stego payload length"
      else openPayload C crc32 J passphrase (ciphertext.length % 2 ^ 32)
        ((rawPayload crc32 salt nonce ciphertext).take (58 + ciphertext.length % 2 ^ 32)) := by
  have hlen := length_rawPayload hsalt hnonce ciphertext crc32
  have hparts := framed_rawPayload hsalt hnonce ciphertext crc32
  have hcount := hparts.count
  have hmod : ciphertext.length % 2 ^ 32 ≤ ciphertext.length := Nat.mod_le _ _
  have hnat : (UInt32.ofNat ciphertext.length).toNat = ciphertext.length % 2 ^ 32 := UInt32.toNat_ofNat'
  have hbe : toBe 4 ciphertext.length = toBe 4 (UInt32.ofNat ciphertext.length).toNat := by
    refine beNat_inj (by rw [length_toBe, length_toBe]) ?_
    rw [beNat_toBe, beNat_toBe, hnat]
    omega
  rw [hbe] at hcount
  have hread : ∀ n, n ≤ (rawPayload crc32 salt nonce ciphertext).length →
      readBits (I.toRgba8 img).width.toNat (I.toRgba8 img).height.toNat (I.toRgba8 img).data (n * 8)
        (walk (I.toRgba8 img).width.toNat (I.toRgba8 img).height.toNat) 0 (List.replicate n 0) =
          .ok ((rawPayload crc32 salt nonce ciphertext).take n) := by
    intro n hn
    rw [himg]
    exact readBits_written hroom.le rgba.length_data hn
  have hbits : (rawPayload crc32 salt nonce ciphertext).length * 8 ≤
      (I.toRgba8 img).width.toNat * (I.toRgba8 img).height.toNat * 3 := by
    rw [himg]
    exact hroom
  unfold extractContactFromImage
  simp only [hload, hI.dimensions img]
  rw [hread 10 (by omega)]
  dsimp only [Outcome.bind]
  rw [slice?_eq_some_iff_at.2 ⟨length_stegoMagic, at_take hparts.magic (by rw [length_stegoMagic]; omega)⟩,
    u32?_eq_some.2 (at_take hcount (by rw [length_toBe]))]
  dsimp only
  rw [if_neg (by simp), hnat]
  have htotal : 6 + 4 + 32 + 12 + ciphertext.length % 2 ^ 32 + 4 = 58 + ciphertext.length % 2 ^ 32 := by omega
  rw [htotal]
  split
  · rfl
  · rw [if_neg (by omega), hread _ (by omega)]

end Extract

/-! ## Embedding -/

theorem length_deriveKey (hC : IdealCipher C) (passphrase : Option String) (salt : Bytes) :
    (deriveKey C passphrase salt).length = 32 := hC.sha256_length _

theorem length_sealedCard (hC : IdealCipher C) (passphrase : Option String) (salt : Bytes) {nonce : Bytes}
    (hnonce : nonce.length = 12) (json : Bytes) : (sealedCard C passphrase salt nonce json).length = json.length + 16 :=
  hC.addsTag _ _ _ (length_deriveKey hC passphrase salt) hnonce

/-- An embedding that succeeds writes the frame of the card into an image with room for it. -/
theorem embedContactIntoImage_eq_ok (hI : I.Lossless) {inputImage : I.DynamicImage} {contact : ContactCard}
    {passphrase : Option String} {d : StegoDraw} {png : Bytes} :
    embedContactIntoImage C crc32 J I inputImage contact passphrase d = .ok png ↔
      ∃ json salt nonce, J.print contact = .ok json ∧ d.salt = .ok salt ∧ d.nonce = .ok nonce ∧
        let raw := rawPayload crc32 salt.1 nonce.1 (sealedCard C passphrase salt.1 nonce.1 json)
        (I.toRgba8 inputImage).HasRoom raw ∧
          I.writeImage ((I.toRgba8 inputImage).withFrame raw).data (I.toRgba8 inputImage).width
            (I.toRgba8 inputImage).height = .ok png := by
  constructor
  · intro h
    unfold embedContactIntoImage at h
    split at h
    · cases h
    rename_i json hjson
    split at h
    · cases h
    rename_i salt hsalt
    split at h
    · cases h
    rename_i nonce hnonce
    rw [hI.dimensions inputImage] at h
    dsimp only at h
    split at h
    · cases h
    rename_i hroom
    have hroom : (I.toRgba8 inputImage).HasRoom
        (rawPayload crc32 salt.1 nonce.1 (sealedCard C passphrase salt.1 nonce.1 json)) := not_lt.1 hroom
    rw [writeBits_walk hroom.le (I.toRgba8 inputImage).length_data] at h
    dsimp only [Outcome.bind] at h
    split at h
    · cases h
    rename_i png' hwrite
    cases h
    exact ⟨json, salt, nonce, hjson, hsalt, hnonce, hroom, hwrite⟩
  · rintro ⟨json, salt, nonce, hjson, hsalt, hnonce, hroom, hwrite⟩
    unfold embedContactIntoImage
    simp only [hjson, hsalt, hnonce, hI.dimensions inputImage]
    rw [if_neg (not_lt.2 hroom), writeBits_walk hroom.le (I.toRgba8 inputImage).length_data]
    dsimp only [Outcome.bind]
    dsimp only [RgbaImage.withFrame] at hwrite
    rw [hwrite]

/-! ## The round trip -/

/-- An address as it is read back: the flow information is not printed. -/
def readBack : StdSocketAddr → StdSocketAddr
  | .v4 octets port => .v4 octets port
  | .v6 octets port _ scopeId => .v6 octets port 0 scopeId

theorem readBack_eq_iff : ∀ {a : StdSocketAddr}, readBack a = a ↔ a.IsParsed
  | .v4 _ _ => ⟨fun _ => trivial, fun _ => rfl⟩
  | .v6 octets port flowinfo scopeId => by
    simp only [readBack, StdSocketAddr.IsParsed, StdSocketAddr.v6.injEq, and_true, true_and]
    exact eq_comm

/-- The card that its JSON stands for. -/
def ContactCard.printed (contact : ContactCard) : ContactCard :=
  { contact with endpoints := contact.endpoints.map readBack }

theorem ContactCard.printed_eq_iff {contact : ContactCard} :
    contact.printed = contact ↔ ∀ a ∈ contact.endpoints, a.IsParsed := by
  have hcard : contact.printed = contact ↔ contact.endpoints.map readBack = contact.endpoints := by
    constructor
    · exact fun h => congrArg ContactCard.endpoints h
    · intro h
      unfold printed
      rw [h]
  rw [hcard]
  conv_lhs => rw [← List.map_id contact.endpoints, List.map_map, List.map_inj_left]
  exact forall₂_congr fun a _ => readBack_eq_iff

/-- `serde_json` reads what it printed of the card. -/
def Parses (J : CardJson) (contact : ContactCard) : Prop :=
  ∀ json, J.print contact = .ok json → J.parse json = .ok contact.printed

/-- The longest ciphertext the reader takes, less the tag. -/
def maxCardJson : Nat := 1000000 - 16

section RoundTrip

variable {inputImage : I.DynamicImage} {contact : ContactCard} {passphrase : Option String} {d : StegoDraw}
  {json png : Bytes}

/-- What an embedding leaves: an image of which it is the frame in the low bits. -/
theorem exists_embedded (hcipher : IdealCipher C) (hI : I.Lossless) (hjson : J.print contact = .ok json)
    (h : embedContactIntoImage C crc32 J I inputImage contact passphrase d = .ok png) :
    ∃ (img : I.DynamicImage) (salt nonce : Bytes), salt.length = 32 ∧ nonce.length = 12 ∧
      I.loadFromMemory png = .ok img ∧
      let raw := rawPayload crc32 salt nonce (sealedCard C passphrase salt nonce json)
      (I.toRgba8 inputImage).HasRoom raw ∧ I.toRgba8 img = (I.toRgba8 inputImage).withFrame raw ∧
        raw.length = 74 + json.length := by
  obtain ⟨json', salt, nonce, hjson', -, -, hroom, hwrite⟩ := (embedContactIntoImage_eq_ok hI).1 h
  obtain rfl := Except.ok.inj (hjson.symm.trans hjson')
  obtain ⟨img, hload, himg⟩ := hI.load _ _ hwrite
  refine ⟨img, salt.1, nonce.1, salt.2, nonce.2, hload, hroom, himg, ?_⟩
  rw [length_rawPayload salt.2 nonce.2, length_sealedCard hcipher passphrase salt.1 nonce.2]
  omega

/-- A card within the limit of the reader is extracted as its JSON has it. -/
theorem extract_of_le (hC : C.Correct) (hcipher : IdealCipher C) (hI : I.Lossless) (hJ : Parses J contact)
    (hjson : J.print contact = .ok json)
    (h : embedContactIntoImage C crc32 J I inputImage contact passphrase d = .ok png)
    (hle : json.length ≤ maxCardJson) :
    extractContactFromImage C crc32 J I png passphrase = .ok contact.printed := by
  obtain ⟨img, salt, nonce, hsalt, hnonce, hload, hroom, himg, hlen⟩ := exists_embedded hcipher hI hjson h
  have hsealed := length_sealedCard hcipher passphrase salt hnonce json
  unfold maxCardJson at hle
  have hmod : (sealedCard C passphrase salt nonce json).length % 2 ^ 32 =
      (sealedCard C passphrase salt nonce json).length := Nat.mod_eq_of_lt (by omega)
  have hopen : C.aeadDecrypt (deriveKey C passphrase salt) nonce [] (sealedCard C passphrase salt nonce json) =
      some json := hC.aeadDecrypt_aeadEncrypt _ _ _ _ (length_deriveKey hcipher passphrase salt) hnonce
  rw [extractContactFromImage_withFrame hI hsalt hnonce passphrase hroom hload himg, hmod, if_neg (by omega),
    List.take_of_length_le (by rw [length_rawPayload hsalt hnonce]), openPayload_rawPayload hsalt hnonce, hopen]
  dsimp only
  rw [hJ json hjson]

/-- A longer one is refused. -/
theorem extract_of_lt (hcipher : IdealCipher C) (hI : I.Lossless) (hjson : J.print contact = .ok json)
    (h : embedContactIntoImage C crc32 J I inputImage contact passphrase d = .ok png)
    (hlt : maxCardJson < json.length) :
    ∃ e, extractContactFromImage C crc32 J I png passphrase = .err e := by
  obtain ⟨img, salt, nonce, hsalt, hnonce, hload, hroom, himg, hlen⟩ := exists_embedded hcipher hI hjson h
  have hsealed := length_sealedCard hcipher passphrase salt hnonce json
  unfold maxCardJson at hlt
  rw [extractContactFromImage_withFrame hI hsalt hnonce passphrase hroom hload himg]
  split
  · exact ⟨_, rfl⟩
  · rename_i hle
    -- the length is more than four bytes hold, and what is left of it is shorter
    have hshort : (sealedCard C passphrase salt nonce json).length % 2 ^ 32 <
        (sealedCard C passphrase salt nonce json).length := by omega
    have hfits := (I.toRgba8 inputImage).fits
    have hdata := (I.toRgba8 inputImage).length_data
    have hroom := hroom.le
    have hmul : (I.toRgba8 inputImage).height.toNat * ((I.toRgba8 inputImage).width.toNat * 3) =
        3 * ((I.toRgba8 inputImage).height.toNat * (I.toRgba8 inputImage).width.toNat) := by ring
    exact openPayload_take hsalt hnonce _ hshort (hcipher.cut _ _ _ (length_deriveKey hcipher passphrase salt) hnonce
      (by omega) _ hshort)

/-- What is asked of an embedding: the card comes back, the image differs in low bits only, and no image makes the
reader panic. -/
structure RoundTrips (C : Crypto) (crc32 : Bytes → UInt32) (J : CardJson) (I : ImageCodec)
    (inputImage : I.DynamicImage) (contact : ContactCard) (passphrase : Option String) (bits : Nat) (png : Bytes) :
    Prop where
  returns : extractContactFromImage C crc32 J I png passphrase = .ok contact
  lowBits : ∃ img, I.loadFromMemory png = .ok img ∧ LowBitsOnly (I.toRgba8 inputImage) (I.toRgba8 img) bits
  total : ∀ imageBytes passphrase, extractContactFromImage C crc32 J I imageBytes passphrase ≠ .panic

/-- A card comes back from an image exactly if it is within the limit of the reader and no address has flow
information. -/
theorem roundTrips_iff (hC : C.Correct) (hcipher : IdealCipher C) (hI : I.Lossless) (hJ : Parses J contact)
    (hjson : J.print contact = .ok json)
    (h : embedContactIntoImage C crc32 J I inputImage contact passphrase d = .ok png) :
    RoundTrips C crc32 J I inputImage contact passphrase ((74 + json.length) * 8) png ↔
      json.length ≤ 999984 ∧ ∀ a ∈ contact.endpoints, a.IsParsed := by
  constructor
  · intro hround
    have hle : json.length ≤ maxCardJson := by
      by_contra hlt
      obtain ⟨e, he⟩ := extract_of_lt hcipher hI hjson h (Nat.lt_of_not_le hlt)
      cases he.symm.trans hround.returns
    have hsame := (extract_of_le hC hcipher hI hJ hjson h hle).symm.trans hround.returns
    exact ⟨hle, ContactCard.printed_eq_iff.1 (Outcome.ok.inj hsame)⟩
  · rintro ⟨hle, hparsed⟩
    obtain ⟨img, salt, nonce, -, -, hload, -, himg, hlen⟩ := exists_embedded hcipher hI hjson h
    refine ⟨?_, ⟨img, hload, ?_⟩, extractContactFromImage_ne_panic hI⟩
    · rw [extract_of_le hC hcipher hI hJ hjson h hle, ContactCard.printed_eq_iff.2 hparsed]
    · rw [himg, ← hlen]
      exact lowBitsOnly_withFrame _ _

end RoundTrip

/-! ## A card -/

/-- A card as `serde_json` prints it: addresses as text. -/
def cardText : Codec (String × String × String × String × String × List String × UInt64 × String) :=
  ((Json.utf8Text.sep (utf8 ",\"display_name\":") (stops_append rfl)
    (Json.utf8Text.sep (utf8 ",\"bio\":") (stops_append rfl)
      (Json.utf8Text.sep (utf8 ",\"ed25519_pub_hex\":") (stops_append rfl)
        (Json.utf8Text.sep (utf8 ",\"x25519_pub_hex\":") (stops_append rfl)
          (Json.utf8Text.sep (utf8 ",\"endpoints\":") (stops_append rfl)
            (Json.utf8Texts.sep (utf8 ",\"timestamp\":") (stops_append rfl)
              (Codec.uint64.sep (utf8 ",\"signature_hex\":") (stops_append rfl) Json.utf8Text))))))).before
                (utf8 "\x7b\"user_id_hex\":")).after (utf8 "\x7d") (stops_append rfl)

def cardJson : CardJson where
  print c := .ok (cardText.print (c.userIdHex, c.displayName, c.bio, c.ed25519PubHex, c.x25519PubHex,
    c.endpoints.map StdSocketAddr.display, c.timestamp, c.signatureHex))
  parse json :=
    match cardText.parseAll json with
    | none => .error "invalid type"
    | some (userIdHex, displayName, bio, ed25519PubHex, x25519PubHex, endpoints, timestamp, signatureHex) =>
      match endpoints.mapM StdSocketAddr.parse with
      | none => .error "invalid socket address syntax"
      | some endpoints =>
        .ok { userIdHex, displayName, bio, ed25519PubHex, x25519PubHex, endpoints, timestamp, signatureHex }

theorem size_endpoint : #[198, 51, 100, 5].size = 4 := rfl

/-- A card with a bio of this many letters. -/
def cardOf (n : Nat) : ContactCard where
  userIdHex := ""
  displayName := "Alice"
  bio := String.ofList (List.replicate n 'a')
  ed25519PubHex := ""
  x25519PubHex := ""
  endpoints := [.v4 ⟨#[198, 51, 100, 5], size_endpoint⟩ 8000]
  timestamp := 0
  signatureHex := ""

theorem parses_cardOf (n : Nat) : Parses cardJson (cardOf n) := by
  intro json hjson
  obtain rfl := Except.ok.inj hjson
  have hparse : ((cardOf n).endpoints.map StdSocketAddr.display).mapM StdSocketAddr.parse =
      some (cardOf n).endpoints := by
    simp [cardOf, StdSocketAddr.parse_display_v4]
  unfold cardJson
  dsimp only
  rw [Codec.parseAll_print]
  dsimp only
  rw [hparse]
  rfl

theorem utf8_replicate (n : Nat) : utf8 (String.ofList (List.replicate n 'a')) = List.replicate n 97 := by
  unfold utf8
  rw [String.toList_ofList]
  induction n with
  | zero => rfl
  | succ n ih =>
    rw [List.replicate_succ, List.flatMap_cons, ih]
    rfl

theorem flatMap_escape_replicate (n : Nat) :
    (List.replicate n (97 : UInt8)).flatMap Json.escape = List.replicate n 97 := by
  induction n with
  | zero => rfl
  | succ n ih =>
    rw [List.replicate_succ, List.flatMap_cons, ih]
    rfl

theorem length_bio (n : Nat) : (Json.utf8Text.print (cardOf n).bio).length = n + 2 := by
  have hprint : Json.utf8Text.print (cardOf n).bio =
      34 :: ((utf8 (String.ofList (List.replicate n 'a'))).flatMap Json.escape ++ [34]) := rfl
  rw [hprint, utf8_replicate, flatMap_escape_replicate, List.length_cons, List.length_append, List.length_replicate]
  rfl

theorem length_cardText (userIdHex displayName bio ed25519PubHex x25519PubHex : String) (endpoints : List String)
    (timestamp : UInt64) (signatureHex : String) :
    (cardText.print (userIdHex, displayName, bio, ed25519PubHex, x25519PubHex, endpoints, timestamp,
      signatureHex)).length = 119 + (Json.utf8Text.print userIdHex).length + (Json.utf8Text.print displayName).length +
        (Json.utf8Text.print bio).length + (Json.utf8Text.print ed25519PubHex).length +
        (Json.utf8Text.print x25519PubHex).length + (Json.utf8Texts.print endpoints).length +
        (Codec.uint64.print timestamp).length + (Json.utf8Text.print signatureHex).length := by
  have hprint : cardText.print (userIdHex, displayName, bio, ed25519PubHex, x25519PubHex, endpoints, timestamp,
      signatureHex) = utf8 "\x7b\"user_id_hex\":" ++ (Json.utf8Text.print userIdHex ++
        (utf8 ",\"display_name\":" ++ (Json.utf8Text.print displayName ++ (utf8 ",\"bio\":" ++
          (Json.utf8Text.print bio ++ (utf8 ",\"ed25519_pub_hex\":" ++ (Json.utf8Text.print ed25519PubHex ++
            (utf8 ",\"x25519_pub_hex\":" ++ (Json.utf8Text.print x25519PubHex ++ (utf8 ",\"endpoints\":" ++
              (Json.utf8Texts.print endpoints ++ (utf8 ",\"timestamp\":" ++ (Codec.uint64.print timestamp ++
                (utf8 ",\"signature_hex\":" ++ Json.utf8Text.print signatureHex)))))))))))))) ++ utf8 "\x7d" := rfl
  have huser : (utf8 "\x7b\"user_id_hex\":").length = 15 := by decide
  have hname : (utf8 ",\"display_name\":").length = 16 := by decide
  have hbio : (utf8 ",\"bio\":").length = 7 := by decide
  have hed : (utf8 ",\"ed25519_pub_hex\":").length = 19 := by decide
  have hx : (utf8 ",\"x25519_pub_hex\":").length = 18 := by decide
  have hendpoints : (utf8 ",\"endpoints\":").length = 13 := by decide
  have htimestamp : (utf8 ",\"timestamp\":").length = 13 := by decide
  have hsignature : (utf8 ",\"signature_hex\":").length = 17 := by decide
  have hend : (utf8 "\x7d").length = 1 := by decide
  rw [hprint]
  simp only [List.length_append, huser, hname, hbio, hed, hx, hendpoints, htimestamp, hsignature, hend]
  omega

/-- The JSON of a card is 158 letters longer than its bio. -/
theorem length_cardOf (n : Nat) : ∃ json, cardJson.print (cardOf n) = .ok json ∧ json.length = n + 158 := by
  refine ⟨_, rfl, ?_⟩
  rw [length_cardText, length_bio]
  have hempty : (Json.utf8Text.print "").length = 2 := by decide
  have hname : (Json.utf8Text.print "Alice").length = 7 := by decide
  have hendpoints : (Json.utf8Texts.print ((cardOf n).endpoints.map StdSocketAddr.display)).length = 21 := by
    show (Json.utf8Texts.print [(StdSocketAddr.v4 #v[198, 51, 100, 5] 8000).display]).length = 21
    decide +kernel
  have htimestamp : (Codec.uint64.print 0).length = 1 := by decide
  simp only [cardOf] at hendpoints ⊢
  omega

/-- Images that are stored as they are. -/
def storedCodec : ImageCodec where
  DynamicImage := RgbaImage
  dimensions img := (img.width, img.height)
  toRgba8 img := img
  writeImage data width height := .ok (toBe 4 width.toNat ++ toBe 4 height.toNat ++ data)
  loadFromMemory bytes :=
    match u32? bytes 0, u32? bytes 4 with
    | some width, some height =>
      if h : (bytes.drop 8).length = 4 * (height.toNat * width.toNat) ∧ (bytes.drop 8).length < 2 ^ 63 then
        .ok ⟨width, height, bytes.drop 8, h.1, h.2⟩
      else .error "image buffer of another size"
    | _, _ => .error "unexpected end of file"

theorem lossless_storedCodec : storedCodec.Lossless where
  dimensions _ := rfl
  load rgba png h := by
    obtain rfl := Except.ok.inj h
    refine ⟨rgba, ?_, rfl⟩
    have hwhole := at_zero_self (toBe 4 rgba.width.toNat ++ toBe 4 rgba.height.toNat ++ rgba.data)
    obtain ⟨hdims, -⟩ := at_append.1 hwhole
    obtain ⟨hwidth, hheight⟩ := at_append.1 hdims
    rw [length_toBe] at hheight
    have hdrop : (toBe 4 rgba.width.toNat ++ toBe 4 rgba.height.toNat ++ rgba.data).drop 8 = rgba.data :=
      List.drop_left' (by rw [List.length_append, length_toBe, length_toBe])
    unfold storedCodec
    dsimp only
    rw [u32?_eq_some.2 hwidth, u32?_eq_some.2 hheight]
    dsimp only
    simp only [hdrop]
    rw [dif_pos ⟨rgba.length_data, rgba.fits⟩]

/-- The primitives with a cipher that puts the length in front. -/
def counted : Crypto :=
  { Crypto.transparent with
    aeadEncrypt := fun _ _ _ plaintext => toBe 16 plaintext.length ++ plaintext
    aeadDecrypt := fun _ _ _ ciphertext =>
      if 16 ≤ ciphertext.length ∧ beNat (ciphertext.take 16) = (ciphertext.length - 16) % 256 ^ 16 then
        some (ciphertext.drop 16)
      else none }

theorem correct_counted : counted.Correct :=
  have h := Crypto.transparent_correct
  { hkdf_length := h.hkdf_length, edPublic_length := h.edPublic_length, edPublic_valid := h.edPublic_valid
    edSign_length := h.edSign_length, edVerify_edSign := h.edVerify_edSign, xPublic_length := h.xPublic_length
    dh_comm := h.dh_comm
    aeadDecrypt_aeadEncrypt := by
      intro key nonce ad plaintext _ _
      have hlen : (toBe 16 plaintext.length ++ plaintext).length = 16 + plaintext.length := by
        rw [List.length_append, length_toBe]
      show (if 16 ≤ (toBe 16 plaintext.length ++ plaintext).length ∧
        beNat ((toBe 16 plaintext.length ++ plaintext).take 16) =
          ((toBe 16 plaintext.length ++ plaintext).length - 16) % 256 ^ 16 then
            some ((toBe 16 plaintext.length ++ plaintext).drop 16) else none) = some plaintext
      rw [List.take_left' (length_toBe _ _), List.drop_left' (length_toBe _ _), beNat_toBe, hlen,
        Nat.add_sub_cancel_left, if_pos ⟨Nat.le_add_right _ _, rfl⟩] }

theorem idealCipher_counted : IdealCipher counted where
  sha256_length bs := leBytes_length 32 _
  addsTag key nonce plaintext _ _ := by
    show (toBe 16 plaintext.length ++ plaintext).length = plaintext.length + 16
    rw [List.length_append, length_toBe, Nat.add_comm]
  cut key nonce plaintext _ _ hshort n hn := by
    change n < (toBe 16 plaintext.length ++ plaintext).length at hn
    show (if 16 ≤ ((toBe 16 plaintext.length ++ plaintext).take n).length ∧
      beNat (((toBe 16 plaintext.length ++ plaintext).take n).take 16) =
        (((toBe 16 plaintext.length ++ plaintext).take n).length - 16) % 256 ^ 16 then
          some (((toBe 16 plaintext.length ++ plaintext).take n).drop 16) else none) = none
    have htake : ((toBe 16 plaintext.length ++ plaintext).take n).length = n := List.length_take_of_le hn.le
    rw [List.length_append, length_toBe] at hn
    rw [htake]
    refine if_neg ?_
    rintro ⟨h16, hcount⟩
    rw [List.take_take, Nat.min_eq_left h16, List.take_left' (length_toBe _ _), beNat_toBe,
      Nat.mod_eq_of_lt (by omega), Nat.mod_eq_of_lt (by omega)] at hcount
    omega

/-- CRC-32 as the package computes it. -/
def crcOf (bs : Bytes) : UInt32 :=
  let shift (crc : UInt32) : UInt32 := if crc &&& 1 = 1 then (crc >>> 1) ^^^ 0xEDB88320 else crc >>> 1
  ~~~(bs.foldl (fun crc b => shift^[8] (crc ^^^ b.toUInt32)) 0xFFFFFFFF)

example : crcOf (utf8 "123456789") = 0xCBF43926 := by decide +kernel

theorem length_blank : (List.replicate 12000000 (0 : UInt8)).length =
    4 * ((1500 : UInt32).toNat * (2000 : UInt32).toNat) := by
  rw [List.length_replicate]
  rfl

/-- A blank picture of 2000 by 1500 pixels. -/
def blankImage : RgbaImage where
  width := 2000
  height := 1500
  data := List.replicate 12000000 0
  length_data := length_blank
  fits := by
    rw [List.length_replicate]
    decide

theorem length_stegoSalt : (List.replicate 32 (1 : UInt8)).length = 32 := List.length_replicate

theorem length_stegoNonce : (List.replicate 12 (2 : UInt8)).length = 12 := List.length_replicate

def stegoDraw : StegoDraw where
  salt := .ok ⟨List.replicate 32 1, length_stegoSalt⟩
  nonce := .ok ⟨List.replicate 12 2, length_stegoNonce⟩

/-- The picture has room for a card with a bio of a million letters. -/
theorem exists_embed_cardOf {n : Nat} (hn : n ≤ 1000000) : ∃ json png, cardJson.print (cardOf n) = .ok json ∧
    json.length = n + 158 ∧
      embedContactIntoImage counted crcOf cardJson storedCodec blankImage (cardOf n) none stegoDraw = .ok png := by
  obtain ⟨json, hjson, hlen⟩ := length_cardOf n
  refine ⟨json, _, hjson, hlen, (embedContactIntoImage_eq_ok lossless_storedCodec).2
    ⟨json, _, _, hjson, rfl, rfl, ?_, rfl⟩⟩
  unfold RgbaImage.HasRoom
  rw [length_rawPayload length_stegoSalt length_stegoNonce,
    length_sealedCard idealCipher_counted none _ length_stegoNonce, hlen]
  show (58 + (n + 158 + 16)) * 8 ≤ 2000 * 1500 * 3
  omega

/-- A card with a bio of a million letters is embedded, and its image is refused. -/
theorem roundTrips_longBio : ∃ png, embedContactIntoImage counted crcOf cardJson storedCodec blankImage
    (cardOf 1000000) none stegoDraw = .ok png ∧
      extractContactFromImage counted crcOf cardJson storedCodec png none ≠ .ok (cardOf 1000000) := by
  obtain ⟨json, png, hjson, hlen, hpng⟩ := exists_embed_cardOf (Nat.le_refl 1000000)
  refine ⟨png, hpng, ?_⟩
  obtain ⟨e, he⟩ := extract_of_lt idealCipher_counted lossless_storedCodec hjson hpng
    (show 1000000 - 16 < json.length by omega)
  rw [he]
  exact fun h => by cases h

theorem roundTrips_shortBio : ∃ json png, cardJson.print (cardOf 5) = .ok json ∧
    embedContactIntoImage counted crcOf cardJson storedCodec blankImage (cardOf 5) none stegoDraw = .ok png ∧
      (RoundTrips counted crcOf cardJson storedCodec blankImage (cardOf 5) none ((74 + json.length) * 8) png ↔
        json.length ≤ 999984 ∧ ∀ a ∈ (cardOf 5).endpoints, a.IsParsed) := by
  obtain ⟨json, png, hjson, -, hpng⟩ := exists_embed_cardOf (show 5 ≤ 1000000 by decide)
  exact ⟨json, png, hjson, hpng,
    roundTrips_iff correct_counted idealCipher_counted lossless_storedCodec (parses_cardOf 5) hjson hpng⟩

end NodeX.Messenger.StegoCarrier
