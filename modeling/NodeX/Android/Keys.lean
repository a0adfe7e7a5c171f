/-
Whose keys the Android client takes for a contact's: those of an envelope, of a presence card or of an invite, each
signed with the contact's own key. One key signs for many purposes, on either platform, and what is signed for the one
is never taken for the other.
-/
import NodeX.Android.Acks
import NodeX.Android.CallAudio
import NodeX.Core.HexText
import NodeX.Lib.Fronts

namespace NodeX.Android

open NodeX.Lib Messenger AndroidMessageCrypto Kad.P2PTransportEngine

namespace Keys

variable (P : Account)

/-! ## Presence -/

/-- `presenceSigningBytes` -/
def presenceSigningBytes (userId endpoint xPublicHex : String) (online : Bool) (timestamp : Int) : Bytes :=
  utf8 ("NodeX-Presence-v1\n" ++ P.K.lowercase userId ++ "\n" ++ endpoint ++ "\n" ++ P.K.lowercase xPublicHex ++ "\n" ++
    toString online ++ "\n" ++ toString timestamp)

/-- The body of `verifyPresence`. -/
def checkPresence (payload : Json) (clock : Clock) : Except Thrown Bool := do
  let userId := P.K.lowercase (← getString P.K.valueOf payload "user_id_hex")
  let endpoint ← getString P.K.valueOf payload "socket_addr"
  let ed ← getHex P payload "ed25519_pub_hex"
  let xHex := P.K.lowercase (← getString P.K.valueOf payload "x25519_pub_hex")
  let online ← getBoolean P.K payload "online"
  let timestamp ← getLong P.O payload "timestamp"
  let signature ← getHex P payload "signature_hex"
  if utf16Length userId ≠ 40 ∨ ed.length ≠ 32 ∨ utf16Length xHex ≠ 64 ∨ signature.length ≠ 64 ∨ timestamp ≤ 0 ∨
      180 < ((clock.seconds : Int) - timestamp).natAbs then return false
  let id ← hexToBytes P.O userId
  if (P.C.hashNodeId ed).bytes ≠ id then return false
  if P.C.edKeyValid ed = false then throw .library
  return P.C.edVerify ed (presenceSigningBytes P userId endpoint xHex online timestamp) signature

def verifyPresence (payload : Json) (clock : Clock) : Bool :=
  match checkPresence P payload clock with
  | .ok valid => valid
  | .error _ => false

end Keys

namespace Phone

open Keys

variable (P : Account) (filesDir : String)

/-- What `handleIncomingPacket` does with a presence card. What waits for the contact is sealed again where its key has
changed, which is left out. -/
def handlePresence (s : Phone) (obj : Json) (clock : Clock) : Phone :=
  let peerUid := clean P.K (optString P.K obj "user_id_hex" "")
  let sAddr := optString P.K obj "socket_addr" ""
  let edHex := clean P.K (optString P.K obj "ed25519_pub_hex" "")
  let xHex := clean P.K (optString P.K obj "x25519_pub_hex" "")
  let authenticatedPresence := verifyPresence P obj clock
  let s :=
    if authenticatedPresence = true ∧ utf16Length peerUid = 40 ∧ utf16Length edHex = 64 ∧ utf16Length xHex = 64 then
      let ed := looseHexToBytes P.K edHex 32
      let x := looseHexToBytes P.K xHex 32
      if P.K.sameIgnoringCase (hexString (P.C.hashNodeId ed).bytes) peerUid then
        s.updateVerifiedContactKeys P.C P.O P.K peerUid ed x true
      else s
    else s
  if authenticatedPresence && !isBlank peerUid && !isBlank sAddr && !startsWith sAddr "0.0.0.0" then
    s.recordEndpoint P peerUid sAddr
  else s

/-- A value that was found: a presence card, or a record of the mailbox. -/
def takeFound (s : Phone) (valueBytes : Bytes) (senderHex senderEndpoint : String) (xs : Nat → Surroundings) : Phone :=
  let jsonStr := MnemonicHelper.kotlinTrim (P.K.decodeText valueBytes)
  if startsWith jsonStr "\x7b" && containsText jsonStr "\"socket_addr\"" then
    match P.O.parse (utf8 jsonStr) with
    | some (.object fields) => s.handlePresence P (.object fields) (xs 0).clock
    | _ => s
  else s.processStorePayload P valueBytes senderHex senderEndpoint xs

/-- `handleIncomingPacket`, where it changes what the client has; what chunks are put together to comes here again. -/
def handleIncomingPacket (s : Phone) (data : Bytes) (senderEndpoint : String) (xs : Nat → Surroundings) (disk : Disk) :
    Phone :=
  match packetKind data with
  | .attachment => (s.handleAttachmentDatagram P filesDir data (xs 0) disk).1
  | .callAudio => (CallAudio.handleCallAudioDatagram P s data senderEndpoint).1
  | .message =>
    match Packets.readPacket P.K P.localNodeIdHex data with
    | .store _ senderHex valueBytes => s.processStorePayload P valueBytes senderHex senderEndpoint xs
    | .found senderHex valueBytes => s.takeFound P valueBytes senderHex senderEndpoint xs
    | _ => s
  | _ => s

/-- `addContact` of a link or of an id. -/
def addContactByText (I : InvitePlatforms) (s : Phone) (inviteOrId : String) (clock : Clock) : Phone :=
  let I := { I with valueOf := P.K.valueOf, lowercase := P.K.lowercase }
  let cleanInput := MnemonicHelper.kotlinTrim inviteOrId
  if (inviteObject P.O I inviteOrId).isSome then
    match readInvite P.C P.O I inviteOrId clock with
    | none => s
    | some invite =>
      if (s.contact? P.K invite.parsedId).isSome then s
      else
        { s with
          contacts :=
            { userIdHex := invite.parsedId, ed25519PublicKeyHex := invite.inviteEdKey
              x25519PublicKeyHex := invite.inviteXKey, isIdentityVerified := true } :: s.contacts }
  else if invitePrefix.toList.isPrefixOf cleanInput.toList then
    s.addContact P.O P.K (String.ofList (cleanInput.toList.drop invitePrefix.toList.length))
  else s.addContact P.O P.K inviteOrId

/-- `awaitVerifiedPeerKey`, of the key that is there. -/
def verifiedPeerKey (K : Kotlin) (s : Phone) (peerId : String) : Option Bytes :=
  (s.getVerifiedPeerX25519Key K peerId).or ((s.verifiedContactKeys.at? peerId).map Prod.snd)

end Phone

namespace Keys

variable (P : Account) (filesDir : String)

/-! ## What one key signs -/

inductive Purpose where
  | envelope | deliveryReceipt | readReceipt | publicKeyBundle | invite | stegoCard | presence | attachmentChunk
  | attachmentAck | jsonArray
deriving DecidableEq

/-- What the clients of an account, on either platform, sign with the key of its identity. -/
inductive Signed (seed : Bytes) : Purpose → Bytes → Prop
  | envelope (recipient : NodeId) (eph nonce : Bytes) (timestamp : Int) (ciphertext : Bytes) :
    Signed seed .envelope (envelopeSigningBytes (identityKeys P.C seed).nodeId recipient.bytes
      (identityKeys P.C seed).xPublic eph nonce timestamp ciphertext)
  | deliveryReceipt (messageId : String) (timestamp : UInt64) :
    Signed seed .deliveryReceipt (utf8 "DELIVERY_RECEIPT_V1" ++ utf8 messageId ++ beBytes timestamp)
  | readReceipt (messageIds : List String) (timestamp : UInt64) :
    Signed seed .readReceipt (utf8 "READ_RECEIPT_V1" ++ messageIds.flatMap utf8 ++ beBytes timestamp)
  | publicKeyBundle :
    Signed seed .publicKeyBundle (utf8 "NodeX-contact-key-v1" ++ (identityKeys P.C seed).nodeId ++
      (identityKeys P.C seed).edPublic ++ (identityKeys P.C seed).xPublic)
  | invite (created expires : UInt64) :
    Signed seed .invite (utf8 (hexString (identityKeys P.C seed).nodeId) ++
      utf8 (hexString (identityKeys P.C seed).edPublic) ++ utf8 (hexString (identityKeys P.C seed).xPublic) ++
      beBytes created ++ beBytes expires)
  | stegoCard (timestamp : UInt64) :
    Signed seed .stegoCard (utf8 (hexString (identityKeys P.C seed).nodeId) ++ (identityKeys P.C seed).edPublic ++
      (identityKeys P.C seed).xPublic ++ beBytes timestamp)
  | presence (endpoint : String) (online : Bool) (timestamp : Int) :
    Signed seed .presence (presenceSigningBytes P (hexString (identityKeys P.C seed).nodeId) endpoint
      (hexString (identityKeys P.C seed).xPublic) online timestamp)
  | attachmentChunk (attachmentId : String) (index : Int) (recipient context rest : Bytes)
    (hcontext : attachmentChunkContext attachmentId index (identityKeys P.C seed).nodeId recipient = .ok context) :
    Signed seed .attachmentChunk (context ++ rest)
  | attachmentAck (attachmentId : String) (index : Int) (recipient signed : Bytes)
    (hsigned : attachmentAckBytes attachmentId index (identityKeys P.C seed).nodeId recipient = .ok signed) :
    Signed seed .attachmentAck signed
  /-- the JSON of a tuple, as the crates sign tombstones and presence cards -/
  | jsonArray (rest : Bytes) : Signed seed .jsonArray (91 :: rest)

/-- What the client checks a signature of, whatever it was sent. -/
inductive Checked : Purpose → Bytes → Prop
  | envelope (p : Parts) (timestamp : Int) :
    Checked .envelope (envelopeSigningBytes p.senderId p.recipientId p.senderXPublic p.ephPublic p.nonce timestamp
      p.ciphertext)
  | deliveryReceipt (messageId : String) (timestamp : Int) :
    Checked .deliveryReceipt (utf8 "DELIVERY_RECEIPT_V1" ++ utf8 messageId ++ beBytes (UInt64.ofInt timestamp))
  | publicKeyBundle (idBytes edPublic xPublic : Bytes) :
    Checked .publicKeyBundle (utf8 "NodeX-contact-key-v1" ++ idBytes ++ edPublic ++ xPublic)
  | invite (id ed x : String) (created expires : Int) (idBytes : Bytes) (hid : hexToBytes P.O id = .ok idBytes)
    (hsize : idBytes.length = 20) (hed : utf16Length ed = 64) (hx : utf16Length x = 64) :
    Checked .invite (utf8 id ++ utf8 ed ++ utf8 x ++ beBytes (UInt64.ofInt created) ++ beBytes (UInt64.ofInt expires))
  | presence (userId endpoint xHex : String) (online : Bool) (timestamp : Int) :
    Checked .presence (presenceSigningBytes P userId endpoint xHex online timestamp)
  | attachmentChunk (attachmentId : String) (index : Int) (sender recipient context rest : Bytes)
    (hcontext : attachmentChunkContext attachmentId index sender recipient = .ok context) :
    Checked .attachmentChunk (context ++ rest)
  | attachmentAck (attachmentId : String) (index : Int) (sender recipient signed : Bytes)
    (hsigned : attachmentAckBytes attachmentId index sender recipient = .ok signed) : Checked .attachmentAck signed

/-- What begins with a text or a bracket of its own. -/
def fronts : List (Bytes × Purpose) :=
  [(utf8 "NodeX-envelope-v3", .envelope), (utf8 "DELIVERY_RECEIPT_V1", .deliveryReceipt),
    (utf8 "READ_RECEIPT_V1", .readReceipt), (utf8 "NodeX-contact-key-v1", .publicKeyBundle),
    (utf8 "NodeX-Presence-v1\n", .presence), (utf8 "NodeX-attachment-chunk-v1", .attachmentChunk),
    (utf8 "NodeX-attachment-ack-v1", .attachmentAck), ([91], .jsonArray)]

/-- What bytes are signed for: the text they begin with tells it, or else their length. -/
def purposeOf (m : Bytes) : Purpose :=
  (frontOf fronts m).getD (if m.length = 112 then .stegoCard else .invite)

/-! ## Texts -/

/-- What is relied on of texts: the digits of base 16, which `lowercase`, `toInt(16)` and `equals(ignoreCase = true)`
take for what they are, and that blanks and case have nothing to do with each other. -/
structure HexTexts (O : OrgJson) (K : Kotlin) : Prop where
  digit : ∀ n : Fin 16, O.digit (hexDigit (UInt8.ofNat n)) = some n
  ascii : ∀ c : Char, c.toNat < 128 → (O.digit c).isSome = true → IsHexDigit (UInt8.ofNat c.toNat)
  space : ∀ c, MnemonicHelper.isKotlinSpace c = true → O.digit c = none
  toInt16 : ∀ a b x y, O.digit a = some x → O.digit b = some y →
    K.toInt16 (String.ofList [a, b]) = some ((16 * x.val + y.val : Nat) : Int)
  lowercase : ∀ bs : Bytes, K.lowercase (hexString bs) = hexString bs
  lowercase_digits : ∀ s, (∀ c ∈ s.toList, (O.digit c).isSome = true) →
    (K.lowercase s).toList.map O.digit = s.toList.map O.digit
  lowercase_trim : ∀ s, K.lowercase (MnemonicHelper.kotlinTrim s) = MnemonicHelper.kotlinTrim (K.lowercase s)
  lowercase_lowercase : ∀ s, K.lowercase (K.lowercase s) = K.lowercase s
  same_symm : ∀ a b, K.sameIgnoringCase a b = true → K.sameIgnoringCase b a = true
  same_trans : ∀ a b c, K.sameIgnoringCase a b = true → K.sameIgnoringCase b c = true → K.sameIgnoringCase a c = true
  same_hex : ∀ a bs, K.sameIgnoringCase a (hexString bs) = true → hexToBytes O a = .ok bs

section Texts

variable {O : OrgJson} {K : Kotlin}

theorem hexToBytes_eq_ok {s : String} {bs : Bytes} : hexToBytes O s = .ok bs ↔
    ∃ digits, s.toList.mapM O.digit = some digits ∧ digitPairs digits = some bs := by
  unfold hexToBytes
  rw [← Option.bind_eq_some_iff]
  split
  · rename_i hread
    rw [hread, Except.ok.injEq, Option.some.injEq]
  · rename_i hread
    rw [hread]
    simp

theorem isSome_of_mapM {f : Char → Option (Fin 16)} : ∀ {cs : List Char} {digits : List (Fin 16)},
    cs.mapM f = some digits → ∀ c ∈ cs, (f c).isSome = true
  | [], _, _, c, hc => absurd hc List.not_mem_nil
  | a :: cs, digits, h, c, hc => by
    rw [List.mapM_cons] at h
    obtain ⟨x, hx, h⟩ := Option.bind_eq_some_iff.1 h
    obtain ⟨rest, hrest, -⟩ := Option.bind_eq_some_iff.1 h
    rcases List.mem_cons.1 hc with rfl | hc
    · rw [hx, Option.isSome_some]
    · exact isSome_of_mapM hrest c hc

/-- What is read of a text depends on the digits of its characters alone. -/
theorem mapM_digit (cs : List Char) : cs.mapM O.digit = (cs.map O.digit).mapM id := by
  rw [List.mapM_map]
  rfl

theorem length_of_digits : ∀ {cs : List Char} {digits : List (Fin 16)} {bs : Bytes}, cs.mapM O.digit = some digits →
    digitPairs digits = some bs → cs.length = 2 * bs.length
  | [], digits, bs, hread, hpairs => by
    obtain rfl := Option.some.inj hread
    obtain rfl := Option.some.inj hpairs
    rfl
  | [a], digits, bs, hread, hpairs => by
    rw [List.mapM_cons] at hread
    obtain ⟨x, -, hread⟩ := Option.bind_eq_some_iff.1 hread
    obtain rfl := Option.some.inj hread
    cases hpairs
  | a :: b :: cs, digits, bs, hread, hpairs => by
    rw [List.mapM_cons, List.mapM_cons] at hread
    obtain ⟨x, -, hread⟩ := Option.bind_eq_some_iff.1 hread
    obtain ⟨tail, htail, hread⟩ := Option.bind_eq_some_iff.1 hread
    obtain ⟨y, -, htail⟩ := Option.bind_eq_some_iff.1 htail
    obtain ⟨rest, hrest, htail⟩ := Option.bind_eq_some_iff.1 htail
    obtain rfl := Option.some.inj htail
    obtain rfl := Option.some.inj hread
    obtain ⟨bytes, hbytes, rfl⟩ := Option.map_eq_some_iff.1 hpairs
    have ih := length_of_digits hrest hbytes
    rw [List.length_cons, List.length_cons, ih, List.length_cons]
    omega

variable (hT : HexTexts O K)
include hT

theorem HexTexts.readsHex : Packets.ReadsHex K where
  lowercase := hT.lowercase
  toInt16 b := by
    obtain ⟨high, low, hhigh, hlow, hbyte⟩ := exists_halves b
    have hnat : b.toNat = 16 * high.val + low.val := by
      rw [← hbyte, UInt8.toNat_ofNat']
      omega
    rw [hhigh, hlow, hT.toInt16 _ _ high low (hT.digit high) (hT.digit low), hnat]
    rfl

/-- Pairs of digits, as `toInt(16)` reads them. -/
theorem HexTexts.mapM_pieces : ∀ {cs : List Char} {digits : List (Fin 16)} {bs : Bytes},
    cs.mapM O.digit = some digits → digitPairs digits = some bs →
      (pieces 2 bs.length cs).mapM (fun d => (K.toInt16 (String.ofList d)).map UInt8.ofInt) = some bs
  | [], digits, bs, hread, hpairs => by
    obtain rfl := Option.some.inj hread
    obtain rfl := Option.some.inj hpairs
    rfl
  | [a], digits, bs, hread, hpairs => by
    rw [List.mapM_cons] at hread
    obtain ⟨x, -, hread⟩ := Option.bind_eq_some_iff.1 hread
    obtain rfl := Option.some.inj hread
    cases hpairs
  | a :: b :: cs, digits, bs, hread, hpairs => by
    rw [List.mapM_cons, List.mapM_cons] at hread
    obtain ⟨x, hx, hread⟩ := Option.bind_eq_some_iff.1 hread
    obtain ⟨tail, htail, hread⟩ := Option.bind_eq_some_iff.1 hread
    obtain ⟨y, hy, htail⟩ := Option.bind_eq_some_iff.1 htail
    obtain ⟨rest, hrest, htail⟩ := Option.bind_eq_some_iff.1 htail
    obtain rfl := Option.some.inj htail
    obtain rfl := Option.some.inj hread
    obtain ⟨bytes, hbytes, rfl⟩ := Option.map_eq_some_iff.1 hpairs
    have hbyte : UInt8.ofInt ((16 * x.val + y.val : Nat) : Int) = UInt8.ofNat (16 * x + y) := by
      rw [UInt8.ofInt, Int.emod_eq_of_lt (by omega) (by omega), Int.toNat_natCast]
    rw [List.length_cons, pieces]
    show List.mapM _ ([a, b] :: pieces 2 bytes.length cs) = _
    rw [List.mapM_cons, hT.toInt16 a b x y hx hy, HexTexts.mapM_pieces hrest hbytes]
    show some (UInt8.ofInt ((16 * x.val + y.val : Nat) : Int) :: bytes) = _
    rw [hbyte]

theorem HexTexts.kotlinTrim {s : String} {bs : Bytes} (h : hexToBytes O s = .ok bs) :
    MnemonicHelper.kotlinTrim s = s := by
  obtain ⟨digits, hread, -⟩ := hexToBytes_eq_ok.1 h
  refine MnemonicHelper.kotlinTrim_eq_self fun c hc => Bool.eq_false_iff.2 fun hspace => ?_
  have hsome := isSome_of_mapM hread c hc
  rw [hT.space c hspace] at hsome
  cases hsome

theorem HexTexts.hexToBytes_lowercase {s : String} {bs : Bytes} (h : hexToBytes O s = .ok bs) :
    hexToBytes O (K.lowercase s) = .ok bs := by
  obtain ⟨digits, hread, hpairs⟩ := hexToBytes_eq_ok.1 h
  refine hexToBytes_eq_ok.2 ⟨digits, ?_, hpairs⟩
  rw [mapM_digit, hT.lowercase_digits s (isSome_of_mapM hread), ← mapM_digit, hread]

theorem HexTexts.clean {s : String} {bs : Bytes} (h : hexToBytes O s = .ok bs) :
    hexToBytes O (Android.clean K s) = .ok bs := by
  unfold Android.clean
  rw [hT.kotlinTrim h]
  exact hT.hexToBytes_lowercase h

/-- Where digits are asked for, the engine reads what `AndroidMessageCrypto` reads. -/
theorem HexTexts.looseHexToBytes {s : String} {bs : Bytes} (h : hexToBytes O s = .ok bs) :
    Android.looseHexToBytes K s bs.length = bs := by
  obtain ⟨digits, hread, hpairs⟩ := hexToBytes_eq_ok.1 (hT.clean h)
  have hlen := length_of_digits hread hpairs
  have hcount : ((Android.clean K s).toList.length + 2 - 1) / 2 = bs.length := by omega
  unfold Android.looseHexToBytes chunked
  dsimp only
  rw [hcount, hT.mapM_pieces hread hpairs, Option.getD_some, Nat.sub_self, List.replicate_zero, List.append_nil,
    List.take_length]

/-- Ids that differ in case alone are ids of one key. -/
theorem HexTexts.bytes_unique {a : String} {bs bs' : Bytes} (h : K.sameIgnoringCase (hexString bs) a = true)
    (h' : K.sameIgnoringCase a (hexString bs') = true) : bs = bs' := by
  have hsame := hT.same_hex _ _ (hT.same_trans _ _ _ h h')
  rw [hexToBytes_hexString hT.digit] at hsame
  exact Except.ok.inj hsame

end Texts

/-! ## One purpose -/

theorem utf8_append (a b : String) : utf8 (a ++ b) = utf8 a ++ utf8 b := by
  unfold utf8
  rw [String.toList_append, List.flatMap_append]

/-- A character of one byte. -/
theorem toNat_of_utf8EncodeChar {c : Char} {b : UInt8} (h : String.utf8EncodeChar c = [b]) :
    c.toNat < 128 ∧ b = UInt8.ofNat c.toNat := by
  unfold String.utf8EncodeChar at h
  dsimp only at h
  split at h
  · rename_i hle
    exact ⟨Nat.lt_succ_of_le hle, (List.head_eq_of_cons_eq h).symm⟩
  · split at h
    · cases h
    · split at h
      · cases h
      · cases h

theorem units_le_length (c : Char) : (if c.toNat < 65536 then 1 else 2) ≤ (String.utf8EncodeChar c).length := by
  have hval : c.toNat = c.val.toNat := rfl
  unfold String.utf8EncodeChar
  dsimp only
  rw [hval]
  split_ifs <;> simp only [List.length_cons, List.length_nil] <;> omega

theorem utf16Length_le_utf8 (s : String) : utf16Length s ≤ (utf8 s).length := by
  unfold utf16Length utf8
  rw [List.length_flatMap]
  exact List.sum_le_sum fun c _ => units_le_length c

theorem length_le_utf8 (s : String) : s.toList.length ≤ (utf8 s).length := by
  have hunits := List.length_le_sum_of_one_le (s.toList.map fun c => if c.toNat < 65536 then 1 else 2) ?_
  · rw [List.length_map] at hunits
    exact hunits.trans (utf16Length_le_utf8 s)
  · intro n hn
    obtain ⟨c, -, rfl⟩ := List.mem_map.1 hn
    split <;> decide

section Ascii

variable {O : OrgJson} {K : Kotlin}

/-- The bytes below 128 in a text of digits are digits. -/
theorem HexTexts.isHexDigit (hT : HexTexts O K) {s : String} (hs : ∀ c ∈ s.toList, (O.digit c).isSome = true) :
    ∀ b ∈ utf8 s, b < 128 → IsHexDigit b := by
  intro b hb hlt
  obtain ⟨c, hc, hbc⟩ := List.mem_flatMap.1 hb
  have hone : c.toNat < 128 ∧ b = UInt8.ofNat c.toNat := by
    rcases utf8EncodeChar_cases c with ⟨b', hbytes, hlt'⟩ | ⟨b', bs, hbytes, hge, hrest⟩
    · rw [hbytes] at hbc
      rw [List.mem_singleton.1 hbc]
      exact toNat_of_utf8EncodeChar hbytes
    · rw [hbytes] at hbc
      have hhigh : ∀ b'' ∈ b' :: bs, 128 ≤ b'' := by
        refine List.forall_mem_cons.2 ⟨?_, hrest⟩
        exact UInt8.le_trans (by decide) hge
      exact absurd hlt (UInt8.not_lt.2 (hhigh b hbc))
  rw [hone.2]
  exact hT.ascii c hone.1 (hs c hc)

end Ascii

section Purposes

variable {P : Account} {seed : Bytes} {k k' : Purpose} {m : Bytes}

theorem prefixFree_fronts : PrefixFree fronts := by
  unfold PrefixFree
  decide

theorem purposeOf_front {front : Bytes} (h : (front, k) ∈ fronts) (rest : Bytes) :
    purposeOf (front ++ rest) = k := by
  unfold purposeOf
  rw [frontOf_append prefixFree_fronts h, Option.getD_some]

/-- A text of digits begins with nothing that is in the table. -/
theorem HexTexts.purposeOf (hT : HexTexts P.O P.K) {s : String} (hs : ∀ c ∈ s.toList, (P.O.digit c).isSome = true)
    (hlen : 8 ≤ (utf8 s).length) (rest : Bytes) :
    Keys.purposeOf (utf8 s ++ rest) = if (utf8 s ++ rest).length = 112 then .stegoCard else .invite := by
  have hnone : frontOf fronts (utf8 s ++ rest) = none := by
    refine frontOf_eq_none (p := fun b => b < 128 → (hexValue b).isSome = true) (n := 8) (by decide) ?_
    intro b hb
    rw [List.take_append_of_le_length hlen] at hb
    exact hT.isHexDigit hs b (List.mem_of_mem_take hb)
  unfold Keys.purposeOf
  rw [hnone, Option.getD_none]

/-- The texts of keys and ids are of digits, two for each byte. -/
theorem HexTexts.hexString (hT : HexTexts P.O P.K) (bs : Bytes) :
    (∀ c ∈ (hexString bs).toList, (P.O.digit c).isSome = true) ∧
      (utf8 (NodeX.hexString bs)).length = 2 * bs.length := by
  obtain ⟨digits, hread, -⟩ := digits_hexString hT.digit bs
  exact ⟨isSome_of_mapM hread, NodeId.hexPairs_length (hexPairs_hexString bs)⟩

theorem length_beBytes (n : UInt64) : (beBytes n).length = 8 := by
  unfold beBytes
  rw [List.length_map]
  rfl

theorem nodeId_length (C : Crypto) (seed : Bytes) : (identityKeys C seed).nodeId.length = 20 :=
  (C.hashNodeId _).size

/-! ### Where each kind begins -/

theorem front_envelope (sender recipient senderX eph nonce : Bytes) (timestamp : Int) (ciphertext : Bytes) :
    ∃ rest, envelopeSigningBytes sender recipient senderX eph nonce timestamp ciphertext =
      utf8 "NodeX-envelope-v3" ++ rest := by
  unfold envelopeSigningBytes
  exact ⟨_, by simp only [List.append_assoc]; rfl⟩

theorem front_presence (userId endpoint xPublicHex : String) (online : Bool) (timestamp : Int) :
    ∃ rest, presenceSigningBytes P userId endpoint xPublicHex online timestamp =
      utf8 "NodeX-Presence-v1\n" ++ rest := by
  unfold presenceSigningBytes
  exact ⟨_, by simp only [utf8_append, List.append_assoc]; rfl⟩

theorem front_attachmentChunk {attachmentId : String} {index : Int} {sender recipient context : Bytes}
    (h : attachmentChunkContext attachmentId index sender recipient = .ok context) :
    ∃ rest, context = utf8 "NodeX-attachment-chunk-v1" ++ rest := by
  unfold attachmentChunkContext at h
  obtain ⟨_, -, h⟩ := thrown_bind_eq_ok.1 h
  obtain rfl := Except.ok.inj h
  exact ⟨_, by simp only [List.append_assoc]; rfl⟩

theorem front_attachmentAck {attachmentId : String} {index : Int} {sender recipient signed : Bytes}
    (h : attachmentAckBytes attachmentId index sender recipient = .ok signed) :
    ∃ rest, signed = utf8 "NodeX-attachment-ack-v1" ++ rest := by
  unfold attachmentAckBytes at h
  obtain ⟨_, -, h⟩ := thrown_bind_eq_ok.1 h
  obtain rfl := Except.ok.inj h
  exact ⟨_, by simp only [List.append_assoc]; rfl⟩

theorem purposeOf_envelope (sender recipient senderX eph nonce : Bytes) (timestamp : Int) (ciphertext : Bytes) :
    purposeOf (envelopeSigningBytes sender recipient senderX eph nonce timestamp ciphertext) = .envelope := by
  obtain ⟨rest, hrest⟩ := front_envelope sender recipient senderX eph nonce timestamp ciphertext
  rw [hrest]
  exact purposeOf_front (by simp [fronts]) rest

theorem purposeOf_presence (userId endpoint xPublicHex : String) (online : Bool) (timestamp : Int) :
    purposeOf (presenceSigningBytes P userId endpoint xPublicHex online timestamp) = .presence := by
  obtain ⟨rest, hrest⟩ := front_presence (P := P) userId endpoint xPublicHex online timestamp
  rw [hrest]
  exact purposeOf_front (by simp [fronts]) rest

/-- What is signed tells what for. -/
theorem purposeOf_signed (hT : HexTexts P.O P.K) (hed : (identityKeys P.C seed).edPublic.length = 32)
    (hx : (identityKeys P.C seed).xPublic.length = 32) (h : Signed P seed k m) : purposeOf m = k := by
  obtain ⟨hdigits, hidLen⟩ := hT.hexString (identityKeys P.C seed).nodeId
  obtain ⟨-, hedLen⟩ := hT.hexString (identityKeys P.C seed).edPublic
  obtain ⟨-, hxLen⟩ := hT.hexString (identityKeys P.C seed).xPublic
  rw [nodeId_length] at hidLen
  cases h with
  | envelope => exact purposeOf_envelope ..
  | deliveryReceipt =>
    rw [List.append_assoc]
    exact purposeOf_front (by simp [fronts]) _
  | readReceipt =>
    rw [List.append_assoc]
    exact purposeOf_front (by simp [fronts]) _
  | publicKeyBundle =>
    simp only [List.append_assoc]
    exact purposeOf_front (by simp [fronts]) _
  | invite created expires =>
    simp only [List.append_assoc]
    rw [hT.purposeOf hdigits (by omega), if_neg]
    simp only [List.length_append, hidLen, hedLen, hxLen, hed, hx]
    omega
  | stegoCard timestamp =>
    simp only [List.append_assoc]
    rw [hT.purposeOf hdigits (by omega), if_pos]
    simp only [List.length_append, hidLen, hed, hx]
    rfl
  | presence => exact purposeOf_presence ..
  | attachmentChunk attachmentId index recipient context rest hcontext =>
    obtain ⟨rest', rfl⟩ := front_attachmentChunk hcontext
    rw [List.append_assoc]
    exact purposeOf_front (by simp [fronts]) _
  | attachmentAck attachmentId index recipient signed hsigned =>
    obtain ⟨rest, rfl⟩ := front_attachmentAck hsigned
    exact purposeOf_front (by simp [fronts]) _
  | jsonArray rest =>
    show purposeOf ([91] ++ rest) = .jsonArray
    exact purposeOf_front (by simp [fronts]) rest

theorem purposeOf_checked (hT : HexTexts P.O P.K) (h : Checked P k m) : purposeOf m = k := by
  cases h with
  | envelope => exact purposeOf_envelope ..
  | deliveryReceipt =>
    rw [List.append_assoc]
    exact purposeOf_front (by simp [fronts]) _
  | publicKeyBundle =>
    simp only [List.append_assoc]
    exact purposeOf_front (by simp [fronts]) _
  | invite id ed x created expires idBytes hid hsize hed hx =>
    obtain ⟨digits, hread, hpairs⟩ := hexToBytes_eq_ok.1 hid
    have hcount := length_of_digits hread hpairs
    have hidLen := length_le_utf8 id
    have hedLen := utf16Length_le_utf8 ed
    have hxLen := utf16Length_le_utf8 x
    simp only [List.append_assoc]
    rw [hT.purposeOf (isSome_of_mapM hread) (by omega), if_neg]
    simp only [List.length_append, length_beBytes]
    omega
  | presence => exact purposeOf_presence ..
  | attachmentChunk attachmentId index sender recipient context rest hcontext =>
    obtain ⟨rest', rfl⟩ := front_attachmentChunk hcontext
    rw [List.append_assoc]
    exact purposeOf_front (by simp [fronts]) _
  | attachmentAck attachmentId index sender recipient signed hsigned =>
    obtain ⟨rest, rfl⟩ := front_attachmentAck hsigned
    exact purposeOf_front (by simp [fronts]) _

/-! ### What the owner of the key said -/

/-- An envelope that a key signed is from the owner of the key, to its recipient, with the owner's key for replies. -/
theorem envelope_of_signed (h : Signed P seed .envelope m) {p : Parts} {timestamp : Int}
    (hm : m = envelopeSigningBytes p.senderId p.recipientId p.senderXPublic p.ephPublic p.nonce timestamp p.ciphertext)
    (hsender : p.senderId.length = 20) (hrecipient : p.recipientId.length = 20)
    (hlength : p.senderXPublic.length = (identityKeys P.C seed).xPublic.length) :
    p.senderXPublic = (identityKeys P.C seed).xPublic := by
  cases h with
  | envelope recipient eph nonce timestamp' ciphertext =>
    unfold envelopeSigningBytes at hm
    simp only [List.append_assoc] at hm
    obtain ⟨-, hm⟩ := List.append_inj hm rfl
    obtain ⟨-, hm⟩ := List.append_inj hm rfl
    obtain ⟨-, hm⟩ := List.append_inj hm (by rw [hsender, nodeId_length])
    obtain ⟨-, hm⟩ := List.append_inj hm (by rw [hrecipient, recipient.size])
    exact (List.append_inj hm hlength.symm).1.symm

/-- The texts of an invite that a key signed are those of its owner. -/
theorem invite_of_signed (hT : HexTexts P.O P.K) (hed : (identityKeys P.C seed).edPublic.length = 32)
    (hx : (identityKeys P.C seed).xPublic.length = 32) (h : Signed P seed .invite m) {id ed x : String}
    {created expires : Int} (hm : m = utf8 id ++ utf8 ed ++ utf8 x ++ beBytes (UInt64.ofInt created) ++
      beBytes (UInt64.ofInt expires)) {idBytes : Bytes} (hid : hexToBytes P.O id = .ok idBytes)
    (hsize : idBytes.length = 20) (hedUnits : utf16Length ed = 64) (hxUnits : utf16Length x = 64) :
    ed = hexString (identityKeys P.C seed).edPublic ∧ x = hexString (identityKeys P.C seed).xPublic := by
  obtain ⟨digits, hread, hpairs⟩ := hexToBytes_eq_ok.1 hid
  have hcount := length_of_digits hread hpairs
  have hidLen := length_le_utf8 id
  have hedLen := utf16Length_le_utf8 ed
  have hxLen := utf16Length_le_utf8 x
  obtain ⟨-, hidSigned⟩ := hT.hexString (identityKeys P.C seed).nodeId
  obtain ⟨-, hedSigned⟩ := hT.hexString (identityKeys P.C seed).edPublic
  obtain ⟨-, hxSigned⟩ := hT.hexString (identityKeys P.C seed).xPublic
  rw [nodeId_length] at hidSigned
  rw [hed] at hedSigned
  rw [hx] at hxSigned
  cases h with
  | invite created' expires' =>
    have hlength := congrArg List.length hm
    simp only [List.length_append, length_beBytes] at hlength
    -- each text takes at least the room of its characters, and all the room there is
    obtain ⟨hm, -⟩ := List.append_inj hm (by simp only [List.length_append, length_beBytes]; omega)
    obtain ⟨hm, -⟩ := List.append_inj hm (by simp only [List.length_append]; omega)
    obtain ⟨hm, hxs⟩ := List.append_inj hm (by simp only [List.length_append]; omega)
    obtain ⟨-, heds⟩ := List.append_inj hm (by omega)
    exact ⟨(utf8_inj.1 heds).symm, (utf8_inj.1 hxs).symm⟩

theorem append_cons_inj_last {c : Char} {s t r r' : List Char} (hr : c ∉ r) (hr' : c ∉ r')
    (h : s ++ [c] ++ r = t ++ [c] ++ r') : s = t ∧ r = r' := by
  have hreverse := congrArg List.reverse h
  simp only [List.reverse_append, List.reverse_singleton, List.singleton_append] at hreverse
  obtain ⟨hr, hs⟩ := append_cons_inj (fun hc => hr (List.mem_reverse.1 hc)) (fun hc => hr' (List.mem_reverse.1 hc))
    hreverse
  exact ⟨List.reverse_inj.1 hs, List.reverse_inj.1 hr⟩

/-- Ends of as many units of one text. -/
theorem eq_of_units {front front' : List Char} {s t : String} (h : front ++ s.toList = front' ++ t.toList)
    (hunits : utf16Length s = utf16Length t) : s = t := by
  have hmore : ∀ a b c : List Char, b = a ++ c →
      (b.map fun c : Char => if c.toNat < 65536 then 1 else 2).sum =
        (c.map fun c : Char => if c.toNat < 65536 then 1 else 2).sum → a = [] := by
    rintro a b c rfl hsum
    rw [List.map_append, List.sum_append] at hsum
    cases a with
    | nil => rfl
    | cons x a =>
      rw [List.map_cons, List.sum_cons] at hsum
      split at hsum <;> omega
  unfold utf16Length at hunits
  rcases List.append_eq_append_iff.1 h with ⟨a, -, hs⟩ | ⟨a, -, ht⟩
  · rw [hmore a _ _ hs hunits] at hs
    exact String.toList_inj.1 hs
  · rw [hmore a _ _ ht hunits.symm] at ht
    exact (String.toList_inj.1 ht).symm

theorem not_mem_line (online : Bool) (timestamp : Int) :
    '\n' ∉ (toString online).toList ∧ '\n' ∉ (toString timestamp).toList := by
  have hnat : ∀ n : Nat, '\n' ∉ (toString n).toList := NodeX.not_mem_toString (by decide)
  constructor
  · cases online <;> decide
  · cases timestamp with
    | ofNat n => exact hnat n
    | negSucc n =>
      have htext : toString (Int.negSucc n) = "-" ++ toString (n + 1) := rfl
      rw [htext, String.toList_append]
      intro hmem
      rcases List.mem_append.1 hmem with hmem | hmem
      · revert hmem
        decide
      · exact hnat _ hmem

/-- The key of a presence card that a key signed is its owner's, whatever lines the endpoints are made of. -/
theorem presence_of_signed (hT : HexTexts P.O P.K) (hx : (identityKeys P.C seed).xPublic.length = 32)
    (h : Signed P seed .presence m) {userId endpoint xHex : String} {online : Bool} {timestamp : Int}
    (hm : m = presenceSigningBytes P userId endpoint xHex online timestamp) (hlower : P.K.lowercase xHex = xHex)
    (hunits : utf16Length xHex = 64) : xHex = hexString (identityKeys P.C seed).xPublic := by
  cases h with
  | presence endpoint' online' timestamp' =>
    have hline : "\n".toList = ['\n'] := rfl
    have hchars := congrArg String.toList (utf8_inj.1 hm)
    rw [hlower, hT.lowercase, hT.lowercase] at hchars
    simp only [String.toList_append, hline] at hchars
    -- the last lines tell whether and when, and hold no line ends
    obtain ⟨hchars, -⟩ := append_cons_inj_last (not_mem_line true timestamp').2 (not_mem_line true timestamp).2 hchars
    obtain ⟨hchars, -⟩ := append_cons_inj_last (not_mem_line online' 0).1 (not_mem_line online 0).1 hchars
    refine (eq_of_units hchars ?_).symm
    rw [utf16Length_hexString, hx, hunits]

end Purposes

/-! ## A platform and a peer -/

section Sample

open Messenger.Sample

theorem toLower_cases (c : Char) : c.toLower = c ∨ ∃ n : Fin 128, c = Char.ofNat n := by
  by_cases hc : c.toNat < 128
  · exact .inr ⟨⟨c.toNat, hc⟩, (Char.ofNat_toNat c).symm⟩
  · left
    unfold Char.toLower
    rw [dif_neg]
    rintro ⟨-, hle⟩
    have hnat : c.toNat ≤ 90 := UInt32.le_iff_toNat_le.1 hle
    omega

/-- Lower case keeps which digit a character is and whether it is a blank, and is kept itself. -/
theorem toLower_keeps (c : Char) : emptyObject.digit c.toLower = emptyObject.digit c ∧
    MnemonicHelper.isKotlinSpace c.toLower = MnemonicHelper.isKotlinSpace c ∧ c.toLower.toLower = c.toLower := by
  rcases toLower_cases c with h | ⟨n, rfl⟩
  · rw [h, h]
    exact ⟨rfl, rfl, rfl⟩
  · revert n
    decide +kernel

theorem digits_lowercase (s : String) :
    (BobsPhone.lowercase s).toList.map emptyObject.digit = s.toList.map emptyObject.digit := by
  unfold BobsPhone.lowercase
  rw [String.toList_ofList, List.map_map]
  exact List.map_congr_left fun c _ => (toLower_keeps c).1

theorem lowercase_kotlinTrim (s : String) :
    BobsPhone.lowercase (MnemonicHelper.kotlinTrim s) = MnemonicHelper.kotlinTrim (BobsPhone.lowercase s) := by
  have hspace : MnemonicHelper.isKotlinSpace ∘ Char.toLower = MnemonicHelper.isKotlinSpace :=
    funext fun c => (toLower_keeps c).2.1
  unfold BobsPhone.lowercase MnemonicHelper.kotlinTrim
  simp only [String.toList_ofList, List.dropWhile_map, hspace, ← List.map_reverse]

def peerSeed : Bytes := List.replicate 32 9

/-- The keys of the peer, with its id. -/
def peersKeys : IdentityKeys := { identityKeys .transparent peerSeed with nodeId := List.replicate 20 1 }

def inviteSigned : Bytes :=
  utf8 (hexString peersKeys.nodeId) ++ utf8 (hexString peersKeys.edPublic) ++ utf8 (hexString peersKeys.xPublic) ++
    beBytes 100 ++ beBytes 1000

theorem size_zeros : (List.replicate 20 (0 : UInt8)).length = 20 := List.length_replicate

/-- One key has the id of the peer, and its one signature is that of an invite. -/
def oneSignature : Crypto :=
  { Crypto.transparent with
    hashNodeId := fun ed =>
      if ed = peersKeys.edPublic then ⟨List.replicate 20 1, rfl⟩ else ⟨List.replicate 20 0, size_zeros⟩
    edVerify := fun key m sig => decide (key = peersKeys.edPublic ∧ m = inviteSigned ∧ sig = sharedSignature) }

def invite (xPublicKey : Bytes) : Json :=
  .object [("user_id", .string (hexString peersKeys.nodeId)),
    ("ed25519_pub_hex", .string (hexString peersKeys.edPublic)), ("x25519_pub_hex", .string (hexString xPublicKey)),
    ("created_at", .nat 100), ("expires_at", .nat 1000), ("signature_hex", .string (hexString sharedSignature))]

/-- The texts are those of two invites: a forged one, which has another key in it, and the peer's. -/
def carefulAccount : Account :=
  { BobsPhone.account (fun _ => none) with
    C := oneSignature
    O := { emptyObject with
      parse := fun bs => if bs = [102] then some (invite (List.replicate 32 7))
        else if bs = [116] then some (invite peersKeys.xPublic) else none } }

theorem hexTexts_carefulAccount : HexTexts carefulAccount.O carefulAccount.K where
  digit := by decide
  ascii c _ h := by
    change ((hexValue c.toNat.toUInt8).map fun d => Fin.ofNat 16 d.toNat).isSome = true at h
    rw [Option.isSome_map] at h
    exact h
  space c hc := by
    have hspaces : ∀ n : Nat, (9 ≤ n ∧ n ≤ 13 ∨ 28 ≤ n ∧ n ≤ 32) ∨ 8192 ≤ n ∧ n ≤ 8202 ∨
        n ∈ [160, 5760, 8232, 8233, 8239, 8287, 12288] → hexValue n.toUInt8 = none := by
      rintro n ((⟨hlow, hhigh⟩ | ⟨hlow, hhigh⟩) | ⟨hlow, hhigh⟩ | hmem)
      · interval_cases n <;> rfl
      · interval_cases n <;> rfl
      · interval_cases n <;> rfl
      · revert n
        decide
    unfold MnemonicHelper.isKotlinSpace at hc
    simp only [Bool.or_eq_true, Bool.and_eq_true, decide_eq_true_eq, beq_iff_eq] at hc
    have hnone : hexValue c.toNat.toUInt8 = none := by
      refine hspaces c.toNat ?_
      simp only [List.mem_cons, List.not_mem_nil, or_false]
      omega
    show (hexValue c.toNat.toUInt8).map _ = none
    rw [hnone, Option.map_none]
  toInt16 a b x y hx hy := by
    have hread : [a, b].mapM emptyObject.digit = some [x, y] := by
      rw [List.mapM_cons, List.mapM_cons]
      change (emptyObject.digit a).bind _ = _
      rw [show emptyObject.digit a = some x from hx, Option.bind_some]
      change ((emptyObject.digit b).bind _).bind _ = _
      rw [show emptyObject.digit b = some y from hy]
      rfl
    have hempty : (String.ofList [a, b]).isEmpty = false := by simp
    change (if (String.ofList [a, b]).isEmpty then none else
      ((String.ofList [a, b]).toList.mapM emptyObject.digit).map fun digits =>
        digits.foldl (fun (n : Int) (d : Fin 16) => 16 * n + d.val) 0) = _
    rw [hempty, String.toList_ofList, hread]
    simp
  lowercase := BobsPhone.lowercase_hex
  lowercase_digits s _ := digits_lowercase s
  lowercase_trim := lowercase_kotlinTrim
  lowercase_lowercase s := by
    show BobsPhone.lowercase (BobsPhone.lowercase s) = BobsPhone.lowercase s
    unfold BobsPhone.lowercase
    rw [String.toList_ofList, List.map_map]
    exact congrArg String.ofList (List.map_congr_left fun c _ => (toLower_keeps c).2.2)
  same_symm a b h := beq_iff_eq.2 (beq_iff_eq.1 h).symm
  same_trans a b c h h' := beq_iff_eq.2 ((beq_iff_eq.1 h).trans (beq_iff_eq.1 h'))
  same_hex a bs h := by
    have hlower : BobsPhone.lowercase a = hexString bs := (beq_iff_eq.1 h).trans (BobsPhone.lowercase_hex bs)
    obtain ⟨digits, hread, hpairs⟩ := digits_hexString (O := emptyObject) (by decide) bs
    refine hexToBytes_eq_ok.2 ⟨digits, ?_, hpairs⟩
    rw [← hlower, mapM_digit, digits_lowercase, ← mapM_digit] at hread
    exact hread

theorem hashNodeId_oneSignature (ed : Bytes) : (oneSignature.hashNodeId ed).bytes =
    if ed = peersKeys.edPublic then List.replicate 20 1 else List.replicate 20 0 := by
  unfold oneSignature
  dsimp only
  split <;> rfl

theorem identityKeys_oneSignature : identityKeys carefulAccount.C peerSeed = peersKeys := by
  have hid := hashNodeId_oneSignature peersKeys.edPublic
  rw [if_pos rfl] at hid
  have hkeys : identityKeys carefulAccount.C peerSeed =
      { identityKeys .transparent peerSeed with nodeId := (oneSignature.hashNodeId peersKeys.edPublic).bytes } := rfl
  rw [hkeys, hid]
  rfl

theorem signed_inviteSigned : Signed carefulAccount peerSeed .invite inviteSigned := by
  have hsigned := @Signed.invite carefulAccount peerSeed 100 1000
  rw [identityKeys_oneSignature] at hsigned
  exact hsigned

end Sample

end Keys

end NodeX.Android
