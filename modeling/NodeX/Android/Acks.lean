/-
Acknowledgements of the parts of an attachment (`createAttachmentAck`, `verifyAttachmentAck`, `handleIncomingPacket`)
and the datagrams of the parts, as one client writes them and the other reads them. An acknowledgement is signed by
whoever gives it; the client asks that this is a contact, and not that it is the one the attachment goes to.
-/
import NodeX.Android.Slots
import NodeX.Android.Packets
import NodeX.Core.AddrText

namespace NodeX.Android

open NodeX.Lib Messenger AndroidMessageCrypto Kad.P2PTransportEngine

variable (P : Account)

/-! ## Acknowledgements -/

def attachmentAckBytes (attachmentId : String) (index : Int) (sender recipient : Bytes) : Except Thrown Bytes := do
  let id := utf8 attachmentId
  require (1 ≤ id.length ∧ id.length ≤ 128 ∧ 0 ≤ index ∧ sender.length = 20 ∧ recipient.length = 20)
  return utf8 "NodeX-attachment-ack-v1" ++ [UInt8.ofNat id.length] ++ id ++ (beBytes (UInt64.ofInt index)).drop 4 ++
    sender ++ recipient

def createAttachmentAck (attachmentId : String) (index : Int) (recipientId : String) : Except Thrown Json := do
  let keys := identityKeys P.C P.seed
  let recipient ← hexToBytes P.O recipientId
  let signed ← attachmentAckBytes attachmentId index keys.nodeId recipient
  return .object [("attachment_id", .string attachmentId), ("index", .nat index.toNat),
    ("sender_id", .string (hexString keys.nodeId)), ("recipient_id", .string (P.K.lowercase recipientId)),
    ("signature", .string (hexString (P.C.edSign keys.edSeed signed)))]

/-- The body of `verifyAttachmentAck`. -/
def checkAttachmentAck (peerEd25519 : Bytes) (ack : Json) (expectedPeerId expectedLocalId : String) :
    Except Thrown Bool := do
  let sender ← getHex P ack "sender_id"
  let recipient ← getHex P ack "recipient_id"
  let signature ← getHex P ack "signature"
  require (P.K.sameIgnoringCase (hexString sender) expectedPeerId = true ∧
    P.K.sameIgnoringCase (hexString recipient) expectedLocalId = true)
  require (signature.length = 64 ∧ peerEd25519.length = 32)
  let attachmentId ← getString P.K.valueOf ack "attachment_id"
  let index ← getInt P.O ack "index"
  let signed ← attachmentAckBytes attachmentId index sender recipient
  if P.C.edKeyValid peerEd25519 = false then throw .library
  return P.C.edVerify peerEd25519 signed signature

def verifyAttachmentAck (peerEd25519 : Bytes) (ack : Json) (expectedPeerId expectedLocalId : String) : Bool :=
  (checkAttachmentAck P peerEd25519 ack expectedPeerId expectedLocalId).toOption.getD false

/-- What an acknowledgement stands under in `attachmentAcks`. -/
def ackKey (attachmentId : String) (index : Int) : String := attachmentId ++ ":" ++ toString index

def ackDatagram (ack : Json) : Bytes :=
  let ackPayload := P.O.print ack
  [0x4E, 0x58, 0x41, 0x41] ++ toBe 4 ackPayload.length ++ ackPayload

/-- The acknowledgement that `handleAttachmentDatagram` sends; nothing is sent where a part cannot be stored. -/
def Phone.ackOf (s : Phone) (data : Bytes) (clock : Clock) (disk : Disk) : Option Bytes :=
  match s.acceptedChunk P data clock with
  | none => none
  | some (id, index, transfer) =>
    if transfer.partFiles[index]? = some none ∧ disk.storeFails.isSome = true then none
    else if disk.sendsAck = false then none
    else ((createAttachmentAck P id index transfer.senderId).toOption).map (ackDatagram P)

/-- What `handleIncomingPacket` completes with a datagram that is an acknowledgement. -/
def Phone.takenAck (s : Phone) (data : Bytes) : Option String :=
  let length := intAt data 4
  if data.length < 8 ∨ data.take 4 ≠ [0x4E, 0x58, 0x41, 0x41] then none
  else if ¬(2 ≤ length ∧ length ≤ 1024 ∧ (data.length : Int) = 8 + length) then none
  else
    match P.O.parse (data.drop 8) with
    | some (.object fields) =>
      let ack := Json.object fields
      let peerId := P.K.lowercase (optString P.K ack "sender_id" "")
      match s.getVerifiedPeerEd25519Key P.K peerId with
      | none => none
      | some peerEd =>
        if verifyAttachmentAck P peerEd ack peerId P.localNodeIdHex then
          some (ackKey (optString P.K ack "attachment_id" "") (optInt P.O ack "index" (-1)))
        else none
    | _ => none

/-! ## Parts -/

/-- The datagram of a part, around its JSON. -/
def partDatagram (index : Nat) (chunk : Json) : Bytes :=
  let text := P.O.print chunk
  [0x4E, 0x58, 0x41, 0x54] ++ toBe 4 index ++ toBe 4 text.length ++ text

/-! ## What the platform does -/

/-- What is relied on: a tag of sixteen bytes, hex texts that are lower case and read as they are printed, and that the
objects of both kinds of datagrams are read back from their texts. -/
structure Platform : Prop where
  tag : ∀ key nonce ad plaintext : Bytes, key.length = 32 →
    (P.C.aeadEncrypt key nonce ad plaintext).length = plaintext.length + 16
  digit : ∀ n : Fin 16, P.O.digit (hexDigit (UInt8.ofNat n)) = some n
  lowercase : ∀ bs, P.K.lowercase (hexString bs) = hexString bs
  same : ∀ a, P.K.sameIgnoringCase a a = true
  chunk : ∀ seed id index recipientId xPublic plaintext nonce eph chunk,
    sealAttachmentChunk { P with seed } id index recipientId xPublic plaintext nonce eph = .ok chunk →
      P.O.parse (P.O.print chunk) = some chunk
  ack : ∀ id index recipientId ack, createAttachmentAck P id index recipientId = .ok ack →
    P.O.parse (P.O.print ack) = some ack

variable {P}

/-! ## Numbers in datagrams -/

theorem intAt_toBe {front rest : Bytes} {i n : Nat} (hfront : front.length = i) (hn : n < 2 ^ 31) :
    intAt (front ++ toBe 4 n ++ rest) i = n := by
  have htake : ((front ++ toBe 4 n ++ rest).drop i).take 4 = toBe 4 n := by
    rw [List.append_assoc, List.drop_left' hfront, List.take_left' (length_toBe ..)]
  unfold intAt
  rw [htake, beNat_toBe, Nat.mod_eq_of_lt (by omega), Int.bmod_eq_of_le (by omega) (by omega)]

/-! ## A part on its way -/

/-- What a sealed part, or an acknowledgement, says of itself. -/
structure Says (chunk : Json) (id : String) (index : Nat) (senderId : Bytes) : Prop where
  object : ∃ fields, chunk = .object fields
  attachmentId : opt chunk "attachment_id" = some (.string id)
  index : opt chunk "index" = some (.nat index)
  senderId : opt chunk "sender_id" = some (.string (hexString senderId))

theorem says_sealAttachmentChunk {seed : Bytes} {id : String} {index : Nat} {recipientId : String}
    {xPublic plaintext nonce eph : Bytes} {chunk : Json}
    (h : sealAttachmentChunk { P with seed } id index recipientId xPublic plaintext nonce eph = .ok chunk) :
    Says chunk id index (identityKeys P.C seed).nodeId := by
  unfold sealAttachmentChunk at h
  obtain ⟨_, -, h⟩ := thrown_bind_eq_ok.1 h
  obtain ⟨_, -, h⟩ := thrown_bind_eq_ok.1 h
  obtain ⟨_, -, h⟩ := thrown_bind_eq_ok.1 h
  obtain ⟨_, -, h⟩ := thrown_bind_eq_ok.1 h
  obtain ⟨_, -, h⟩ := thrown_bind_eq_ok.1 h
  obtain rfl := Except.ok.inj h
  exact ⟨⟨_, rfl⟩, rfl, rfl, rfl⟩

theorem optInt_nat {env : Json} {name : String} {n : Nat} (h : opt env name = some (.nat n)) (hn : n < 2 ^ 31)
    (fallback : Int) : optInt P.O env name fallback = n := by
  have hlong : n < 2 ^ 63 := by omega
  unfold optInt
  rw [h, Option.bind_some]
  show (some (if n < 2 ^ 63 then Int.bmod n (2 ^ 32) else 2 ^ 31 - 1)).getD fallback = n
  rw [if_pos hlong, Option.getD_some, Int.bmod_eq_of_le (by omega) (by omega)]

theorem optString_string {env : Json} {name text : String} (h : opt env name = some (.string text))
    (fallback : String) : optString P.K env name fallback = text := by
  unfold optString
  rw [h]

/-- Which part a datagram is of: the one that it was sealed as, if it is of a length that is read, the transfer goes on
and the part opens. -/
theorem acceptedChunk_partDatagram (hP : Platform P) {chunk : Json} {id : String} {index : Nat} {senderId : Bytes}
    (htells : Says chunk id index senderId) (hprint : P.O.parse (P.O.print chunk) = some chunk)
    (hindex : index < 2 ^ 31) (s : Phone) (clock : Clock) :
    s.acceptedChunk P (partDatagram P index chunk) clock =
      if 2 ≤ (P.O.print chunk).length ∧ (P.O.print chunk).length ≤ 1388 then
        match s.incomingAttachments.at? id with
        | none => none
        | some transfer =>
          if transfer.senderId ≠ hexString senderId ∨ ¬(index < transfer.partFiles.length) ∨
              24 * 60 * 60 * 1000 < (clock.millis : Int) - transfer.createdAt then none
          else
            match openAttachmentChunk P s chunk (hexString senderId) with
            | .ok _ => some (id, index, transfer)
            | .error _ => none
      else none := by
  obtain ⟨fields, hfields⟩ := htells.object
  have hlen : (partDatagram P index chunk).length = 12 + (P.O.print chunk).length := by
    simp [partDatagram]
    omega
  have hat : intAt (partDatagram P index chunk) 4 = index := by
    unfold partDatagram
    dsimp only
    rw [List.append_assoc _ (toBe 4 (P.O.print chunk).length)]
    exact intAt_toBe rfl hindex
  have hdrop : (partDatagram P index chunk).drop 12 = P.O.print chunk := by
    unfold partDatagram
    dsimp only
    rw [List.drop_left']
    simp
  have hattachment : optString P.K chunk "attachment_id" "" = id := optString_string htells.attachmentId ""
  have hindexOf : optInt P.O chunk "index" (-1) = index := optInt_nat htells.index hindex (-1)
  have hsender : P.K.lowercase (optString P.K chunk "sender_id" "") = hexString senderId := by
    rw [optString_string htells.senderId, hP.lowercase]
  have hbound : Phone.attachmentChunkBytes * 2 + 1000 = 1700 := rfl
  unfold Phone.acceptedChunk
  dsimp only
  rw [hlen, hat, hdrop, hprint, hbound]
  by_cases hlong : (P.O.print chunk).length ≤ 1388
  swap
  · rw [if_pos (by omega), if_neg fun h => hlong h.2]
  have hlength : intAt (partDatagram P index chunk) 8 = (P.O.print chunk).length := by
    unfold partDatagram
    dsimp only
    exact intAt_toBe (by simp) (by omega)
  rw [if_neg (by omega), hlength]
  by_cases htwo : 2 ≤ (P.O.print chunk).length
  swap
  · rw [if_pos (by omega), if_neg fun h => htwo h.1]
  rw [if_neg (by omega), if_pos ⟨htwo, hlong⟩, hfields]
  dsimp only
  rw [← hfields, hindexOf, if_neg (not_not.2 rfl), hattachment, hsender]
  cases htransfer : s.incomingAttachments.at? id with
  | none => rfl
  | some transfer =>
    dsimp only
    have hrange : (0 ≤ (index : Int) ∧ (index : Int) < transfer.partFiles.length) ↔
        index < transfer.partFiles.length := by
      omega
    refine if_congr (by rw [hrange]) rfl ?_
    cases openAttachmentChunk P s chunk (hexString senderId) with
    | ok plain => exact congrArg (fun i => some (id, i, transfer)) (Int.toNat_natCast index)
    | error e => rfl

/-! ## An acknowledgement on its way -/

/-- Another phone on the same platform. -/
def Account.peer (P : Account) (seed : Bytes) : Account :=
  { P with seed, localNodeIdHex := hexString (identityKeys P.C seed).nodeId }

theorem says_createAttachmentAck {id : String} {index : Nat} {recipientId : String} {ack : Json}
    (h : createAttachmentAck P id index recipientId = .ok ack) :
    Says ack id index (identityKeys P.C P.seed).nodeId := by
  unfold createAttachmentAck at h
  obtain ⟨_, -, h⟩ := thrown_bind_eq_ok.1 h
  obtain ⟨_, -, h⟩ := thrown_bind_eq_ok.1 h
  obtain rfl := Except.ok.inj h
  exact ⟨⟨_, rfl⟩, rfl, rfl, rfl⟩

/-- What an acknowledgement completes: the part that it was created for, if it is of a length that is read and verifies
under the key of the contact that it names. -/
theorem takenAck_ackDatagram (hP : Platform P) {ack : Json} {id : String} {index : Nat} {senderId : Bytes}
    (htells : Says ack id index senderId) (hprint : P.O.parse (P.O.print ack) = some ack) (hindex : index < 2 ^ 31)
    (seed : Bytes) (s : Phone) :
    s.takenAck (P.peer seed) (ackDatagram P ack) =
      if 2 ≤ (P.O.print ack).length ∧ (P.O.print ack).length ≤ 1024 then
        match s.getVerifiedPeerEd25519Key P.K (hexString senderId) with
        | none => none
        | some peerEd =>
          if verifyAttachmentAck (P.peer seed) peerEd ack (hexString senderId) (P.peer seed).localNodeIdHex then
            some (ackKey id index)
          else none
      else none := by
  obtain ⟨fields, hfields⟩ := htells.object
  have hlen : (ackDatagram P ack).length = 8 + (P.O.print ack).length := by
    simp [ackDatagram]
    omega
  have htake : (ackDatagram P ack).take 4 = [0x4E, 0x58, 0x41, 0x41] := by
    unfold ackDatagram
    dsimp only
    rw [List.append_assoc]
    rfl
  have hdrop : (ackDatagram P ack).drop 8 = P.O.print ack := by
    unfold ackDatagram
    dsimp only
    rw [List.drop_left']
    simp
  have hattachment : optString P.K ack "attachment_id" "" = id := optString_string htells.attachmentId ""
  have hindexOf : optInt P.O ack "index" (-1) = index := optInt_nat htells.index hindex (-1)
  have hsender : P.K.lowercase (optString P.K ack "sender_id" "") = hexString senderId := by
    rw [optString_string htells.senderId, hP.lowercase]
  have hO : (P.peer seed).O = P.O := rfl
  have hK : (P.peer seed).K = P.K := rfl
  unfold Phone.takenAck
  dsimp only
  rw [hlen, htake, hdrop, hO, hK, hprint, if_neg (by simp)]
  by_cases hlong : (P.O.print ack).length ≤ 1024
  swap
  · rw [if_pos (by omega), if_neg fun h => hlong h.2]
  have hlength : intAt (ackDatagram P ack) 4 = (P.O.print ack).length := by
    unfold ackDatagram
    dsimp only
    exact intAt_toBe rfl (by omega)
  rw [hlength]
  by_cases htwo : 2 ≤ (P.O.print ack).length
  swap
  · rw [if_pos (by omega), if_neg fun h => htwo h.1]
  rw [if_neg (by omega), if_pos ⟨htwo, hlong⟩, hfields]
  dsimp only
  rw [← hfields, hattachment, hindexOf, hsender]

/-- An acknowledgement verifies at the one that it is for. -/
theorem verifyAttachmentAck_createAttachmentAck (hP : Platform P) (hC : P.C.Correct) {id : String} {index : Nat}
    {seed : Bytes} {ack : Json} (hindex : index < 2 ^ 31)
    (h : createAttachmentAck P id index (P.peer seed).localNodeIdHex = .ok ack) :
    verifyAttachmentAck (P.peer seed) (identityKeys P.C P.seed).edPublic ack
      (hexString (identityKeys P.C P.seed).nodeId) (P.peer seed).localNodeIdHex = true := by
  have hedlength : (identityKeys P.C P.seed).edSeed.length = 32 := hC.hkdf_length _ _ _
  have hindexOf : ∀ v, opt ack v = some (.nat index) → getInt P.O ack v = .ok (index : Int) := by
    intro v hv
    have hint : toInteger P.O (.nat index) = some (index : Int) := by
      change some (if index < 2 ^ 63 then Int.bmod index (2 ^ 32) else 2 ^ 31 - 1) = _
      rw [if_pos (by omega), Int.bmod_eq_of_le (by omega) (by omega)]
    unfold getInt
    rw [hv, Option.bind_some, hint]
  unfold createAttachmentAck at h
  obtain ⟨recipient, hrecipient, h⟩ := thrown_bind_eq_ok.1 h
  have hpeer : (P.peer seed).localNodeIdHex = hexString (identityKeys P.C seed).nodeId := rfl
  rw [hpeer] at hrecipient h ⊢
  rw [hexToBytes_hexString hP.digit] at hrecipient
  obtain rfl := Except.ok.inj hrecipient
  obtain ⟨signed, hsigned, h⟩ := thrown_bind_eq_ok.1 h
  have hack := Except.ok.inj h
  have hget : ∀ name bs, opt ack name = some (.string (hexString bs)) → getHex (P.peer seed) ack name = .ok bs :=
    fun name bs hopt => @getHex_hexString (P.peer seed) hP.digit _ _ _ hopt
  have hsender := hget "sender_id" (identityKeys P.C P.seed).nodeId (by rw [← hack]; rfl)
  have hrecipient := hget "recipient_id" (identityKeys P.C seed).nodeId (by
    rw [← hack]
    exact congrArg (fun hex => some (Json.string hex)) (hP.lowercase _))
  have hsignature := hget "signature" (P.C.edSign (identityKeys P.C P.seed).edSeed signed) (by rw [← hack]; rfl)
  have hattachment : getString P.K.valueOf ack "attachment_id" = .ok id := by
    rw [← hack]
    rfl
  have hint := hindexOf "index" (by rw [← hack]; rfl)
  have hvalid : P.C.edKeyValid (identityKeys P.C P.seed).edPublic = true := hC.edPublic_valid _ hedlength
  have hverify : P.C.edVerify (identityKeys P.C P.seed).edPublic signed
      (P.C.edSign (identityKeys P.C P.seed).edSeed signed) = true := hC.edVerify_edSign _ _ hedlength
  have hlengths : (P.C.edSign (identityKeys P.C P.seed).edSeed signed).length = 64 ∧
      (identityKeys P.C P.seed).edPublic.length = 32 :=
    ⟨hC.edSign_length _ _ hedlength, hC.edPublic_length _ hedlength⟩
  have hcheck : checkAttachmentAck (P.peer seed) (identityKeys P.C P.seed).edPublic ack
      (hexString (identityKeys P.C P.seed).nodeId) (hexString (identityKeys P.C seed).nodeId) = .ok true := by
    unfold checkAttachmentAck
    rw [hsender, hrecipient, hsignature]
    change (require (P.K.sameIgnoringCase _ _ = true ∧ P.K.sameIgnoringCase _ _ = true) >>= _) = _
    rw [require_bind ⟨hP.same _, hP.same _⟩, require_bind hlengths]
    change (getString P.K.valueOf ack "attachment_id" >>= _) = _
    rw [hattachment]
    change (getInt P.O ack "index" >>= _) = _
    rw [hint]
    change (attachmentAckBytes id index _ _ >>= _) = _
    rw [hsigned]
    change (if P.C.edKeyValid _ = false then _ else _) = _
    rw [hvalid, if_neg (by simp)]
    exact congrArg Except.ok hverify
  unfold verifyAttachmentAck
  rw [hcheck]
  rfl

theorem not_mem_toString_colon (n : Nat) : ':' ∉ (toString n).toList := NodeX.not_mem_toString (by decide) n

/-- A key names one part of one attachment. -/
theorem ackKey_inj {id id' : String} {i j : Nat} (h : ackKey id i = ackKey id' j) : id = id' ∧ i = j := by
  have hchars := congrArg (fun s : String => s.toList.reverse) h
  have hint : ∀ n : Nat, toString (n : Int) = toString n := fun _ => rfl
  simp only [ackKey, hint, String.toList_append, List.reverse_append, List.append_assoc] at hchars
  have hmem : ∀ n : Nat, ':' ∉ (toString n).toList.reverse := fun n hn =>
    not_mem_toString_colon n (List.mem_reverse.1 hn)
  obtain ⟨hdigits, hid⟩ := append_cons_inj (hmem i) (hmem j) hchars
  exact ⟨String.toList_inj.1 (List.reverse_inj.1 hid), toString_inj (String.toList_inj.1 (List.reverse_inj.1 hdigits))⟩

/-! ## Objects of texts and numbers -/

namespace FlatObject

/-- The fields of an object, each a text or a number. -/
abbrev Fields := List (String × (String ⊕ Nat))

def value : Codec (String ⊕ Nat) :=
  Codec.sum NodeX.Json.utf8Text Codec.nat fun n rest => by
    have hhead := Codec.head?_natDigits n rest (b := 34) (by decide)
    have hnone : NodeX.Json.text.parse (Codec.nat.print n ++ rest) = none := by
      show NodeX.Json.text.parse (Codec.natDigits n ++ rest) = none
      cases hdigits : Codec.natDigits n ++ rest with
      | nil => rfl
      | cons b tail =>
        rw [hdigits, List.head?_cons] at hhead
        unfold NodeX.Json.text
        dsimp only
        split
        · rename_i s heq
          exact absurd (congrArg some (List.cons.inj heq).1) hhead
        · rfl
    show (NodeX.Json.text.parse (Codec.nat.print n ++ rest)).bind _ = none
    rw [hnone, Option.bind_none]

def inBrackets : Codec Fields :=
  Codec.list (NodeX.Json.utf8Text.sep [58] (fun rest => stops_cons rest rfl) value) fun a rest h => by cases h

/-- The text between the brackets, in braces. -/
def print (fields : Fields) : Bytes := 123 :: ((inBrackets.print fields).tail.dropLast ++ [125])

def parse (bs : Bytes) : Option Fields :=
  if bs.head? = some 123 ∧ bs.getLast? = some 125 then inBrackets.parseAll (91 :: (bs.tail.dropLast ++ [93])) else none

theorem parse_print (fields : Fields) : parse (print fields) = some fields := by
  have hprint : 91 :: ((inBrackets.print fields).tail.dropLast ++ [93]) = inBrackets.print fields := by
    show 91 :: ((List.tail (91 :: (_ ++ [93]))).dropLast ++ [93]) = 91 :: (_ ++ [93])
    rw [List.tail_cons, List.dropLast_concat]
  unfold parse print
  rw [if_pos ⟨rfl, by rw [← List.cons_append, List.getLast?_concat]⟩, List.tail_cons, List.dropLast_concat, hprint,
    inBrackets.parseAll_print]

def ofFields (fields : Fields) : Json := .object (fields.map fun f => (f.1, f.2.elim .string .nat))

def fields? : Json → Option Fields
  | .object fields => fields.mapM fun f =>
    match f.2 with
    | .string s => some (f.1, .inl s)
    | .nat n => some (f.1, .inr n)
    | _ => none
  | _ => none

/-- JSON of such objects, and nothing else. -/
def org : OrgJson where
  toInteger _ := none
  toLong _ := none
  digit := Messenger.Sample.emptyObject.digit
  parse bs := (parse bs).map ofFields
  print v := (fields? v).elim [] print

theorem parse_print_org {v : Json} {fields : Fields} (h : fields? v = some fields) (hv : ofFields fields = v) :
    org.parse (org.print v) = some v := by
  show (parse ((fields? v).elim [] print)).map ofFields = some v
  rw [h, Option.elim_some, parse_print, Option.map_some, hv]

end FlatObject

/-- A platform with such objects. -/
theorem platform_flatObject {P : Account} (hO : P.O = FlatObject.org) (hK : P.K = BobsPhone.kotlin fun _ => none)
    (htag : ∀ key nonce ad plaintext : Bytes, key.length = 32 →
      (P.C.aeadEncrypt key nonce ad plaintext).length = plaintext.length + 16) : Platform P where
  tag := htag
  digit := by
    rw [hO]
    decide
  lowercase := by
    rw [hK]
    exact BobsPhone.lowercase_hex
  same := by
    rw [hK]
    exact fun _ => beq_self_eq_true _
  chunk seed id index recipientId xPublic plaintext nonce eph chunk h := by
    unfold sealAttachmentChunk at h
    obtain ⟨_, -, h⟩ := thrown_bind_eq_ok.1 h
    obtain ⟨_, -, h⟩ := thrown_bind_eq_ok.1 h
    obtain ⟨_, -, h⟩ := thrown_bind_eq_ok.1 h
    obtain ⟨_, -, h⟩ := thrown_bind_eq_ok.1 h
    obtain ⟨_, -, h⟩ := thrown_bind_eq_ok.1 h
    obtain rfl := Except.ok.inj h
    rw [hO]
    exact FlatObject.parse_print_org rfl rfl
  ack id index recipientId ack h := by
    unfold createAttachmentAck at h
    obtain ⟨_, -, h⟩ := thrown_bind_eq_ok.1 h
    obtain ⟨_, -, h⟩ := thrown_bind_eq_ok.1 h
    obtain rfl := Except.ok.inj h
    rw [hO]
    exact FlatObject.parse_print_org rfl rfl

end NodeX.Android
