/-
Invite links between the platforms: `create_invite` of the crates and `createRustCompatibleInvite` of Android write one
signed text format, `parse_and_verify_invite` and `verifyRustCompatibleInvite` read it. JSON and Base64 are what the two
platforms agree on; hex, the text that is signed and the fingerprint are written twice and compared here.
-/
import Mathlib.Data.List.TakeWhile
import NodeX.Core.JsonText
import NodeX.Messenger.ContactCards
import NodeX.Messenger.Mnemonic

namespace NodeX

open NodeX.Lib

/-- `UserIdentity::fingerprint`: the hex of the id in groups of four. -/
def UserIdentity.fingerprint {C : Crypto} (id : UserIdentity C) : String :=
  let hex := hexString (C.hashNodeId id.verifyingKey).bytes
  ":".intercalate ((List.range ((hex.toList.length + 3) / 4)).map fun i =>
    String.ofList ((hex.toList.drop (4 * i)).take 4))

namespace Messenger

open AndroidMessageCrypto

/-! ## The payload as JSON -/

/-- `String::deserialize`. -/
def Json.string? : Json → Option String
  | .string s => some s
  | _ => none

/-- `Vec<SocketAddr>::deserialize`. -/
def Json.addrs? (T : PresenceText) : Json → Option (List SocketAddr)
  | .array items => items.mapM fun v => (Json.string? v).bind T.parseAddr
  | _ => none

namespace InvitePayload

/-- The derived writer. -/
def toJson (T : PresenceText) (p : InvitePayload) : Json :=
  .object [("user_id", .string p.userId), ("ed25519_pub_hex", .string p.ed25519PubHex),
    ("x25519_pub_hex", .string p.x25519PubHex), ("display_name", .string p.displayName),
    ("fingerprint", .string p.fingerprint), ("endpoints", .array (p.endpoints.map fun a => .string (T.showAddr a))),
    ("created_at", .nat p.createdAt.toNat), ("expires_at", .nat p.expiresAt.toNat),
    ("signature_hex", .string p.signatureHex)]

/-- The derived reader. -/
def ofJson (T : PresenceText) : Json → Option InvitePayload
  | .object fields => do
    let userId ← Json.required? fields "user_id" Json.string?
    let ed25519PubHex ← Json.required? fields "ed25519_pub_hex" Json.string?
    let x25519PubHex ← Json.required? fields "x25519_pub_hex" Json.string?
    let displayName ← Json.required? fields "display_name" Json.string?
    let fingerprint ← Json.required? fields "fingerprint" Json.string?
    let endpoints ← Json.required? fields "endpoints" (Json.addrs? T)
    let createdAt ← Json.required? fields "created_at" Json.u64?
    let expiresAt ← Json.required? fields "expires_at" Json.u64?
    let signatureHex ← Json.required? fields "signature_hex" Json.string?
    some
      { userId, ed25519PubHex, x25519PubHex, displayName, fingerprint, endpoints, createdAt, expiresAt, signatureHex }
  | .array [userId, ed, x, displayName, fingerprint, endpoints, createdAt, expiresAt, signatureHex] => do
    some
      { userId := ← userId.string?, ed25519PubHex := ← ed.string?, x25519PubHex := ← x.string?
        displayName := ← displayName.string?, fingerprint := ← fingerprint.string?
        endpoints := ← endpoints.addrs? T, createdAt := ← createdAt.u64?, expiresAt := ← expiresAt.u64?
        signatureHex := ← signatureHex.string? }
  | _ => none

/-- An invite without endpoints is read as it was written. -/
theorem ofJson_toJson (T : PresenceText) {p : InvitePayload} (h : p.endpoints = []) :
    ofJson T (p.toJson T) = some p := by
  obtain ⟨userId, ed, x, displayName, fingerprint, endpoints, createdAt, expiresAt, signatureHex⟩ := p
  obtain rfl : endpoints = [] := h
  simp [ofJson, toJson, Json.required?, Json.field?, Json.string?, Json.addrs?]

end InvitePayload

/-! ## Both platforms -/

/-- JSON, Base64 and text on both platforms. -/
structure InvitePlatforms where
  /-- `serde_json` -/
  serde : JsonText
  /-- `URL_SAFE_NO_PAD.encode` of the crate, and Android's `Base64` with the flags of a link -/
  encodeRust : Bytes → String
  encodeAndroid : Bytes → String
  decodeAndroid : String → Option Bytes
  /-- `String.valueOf` of a value that is no text -/
  valueOf : Json → String
  lowercase : String → String

section Model

variable (C : Crypto) (O : OrgJson) (T : PresenceText) (D : CardSources) (I : InvitePlatforms)

def defaultInviteTtlSecs : UInt64 := 7 * 24 * 3600

/-- `create_invite`, at the time of its clock. -/
def createInvite (identity : UserIdentity C) (displayName : String) (endpoints : List SocketAddr)
    (ttlSeconds : Option UInt64) (now : UInt64) : String :=
  let unsigned : InvitePayload :=
    { userId := identity.userIdHex, ed25519PubHex := hexString identity.verifyingKey
      x25519PubHex := hexString identity.x25519Public, displayName, fingerprint := identity.fingerprint, endpoints
      createdAt := now, expiresAt := now + ttlSeconds.getD defaultInviteTtlSecs, signatureHex := "" }
  let payload := { unsigned with signatureHex := hexString (identity.sign unsigned.signData) }
  invitePrefix ++ I.encodeRust (I.serde.print (payload.toJson T))

/-- `length` of a text in UTF-16. -/
def utf16Length (s : String) : Nat := (s.toList.map fun c => if c.toNat < 65536 then 1 else 2).sum

/-- `createRustCompatibleInvite`, from the seed of the recovery phrase. -/
def createRustCompatibleInvite (seed : Bytes) (displayName : String) (clock : Clock) : String :=
  let keys := identityKeys C seed
  let id := hexString keys.nodeId
  let ed := hexString keys.edPublic
  let x := hexString keys.xPublic
  let created := clock.seconds
  let expires := created + 7 * 24 * 3600
  let signed := utf8 id ++ utf8 ed ++ utf8 x ++ beBytes (UInt64.ofNat created) ++ beBytes (UInt64.ofNat expires)
  let payload : Json :=
    .object [("user_id", .string id), ("ed25519_pub_hex", .string ed), ("x25519_pub_hex", .string x),
      ("display_name", .string displayName),
      ("fingerprint", .string (":".intercalate ((chunked 4 id.toList).map String.ofList))),
      ("endpoints", .array []), ("created_at", .nat created), ("expires_at", .nat expires),
      ("signature_hex", .string (hexString (C.edSign keys.edSeed signed)))]
  "nodex://invite/" ++ I.encodeAndroid (O.print payload)

/-- `JSONObject.getString` -/
def getString (valueOf : Json → String) (env : Json) (name : String) : Except Thrown String :=
  match opt env name with
  | some (.string s) => .ok s
  | some v => .ok (valueOf v)
  | none => .error .library

/-- `JSONObject.getLong` -/
def getLong (env : Json) (name : String) : Except Thrown Int :=
  match (opt env name).bind (toLong O) with
  | some n => .ok n
  | none => .error .library

/-- The body of `verifyRustCompatibleInvite`. -/
def checkRustCompatibleInvite (payload : Json) (clock : Clock) : Except Thrown Bool := do
  let id ← getString I.valueOf payload "user_id"
  let ed ← getString I.valueOf payload "ed25519_pub_hex"
  let x ← getString I.valueOf payload "x25519_pub_hex"
  let created ← getLong O payload "created_at"
  let expires ← getLong O payload "expires_at"
  let now : Int := clock.seconds
  if expires ≤ now ∨ now + 300 < created ∨ utf16Length ed ≠ 64 ∨ utf16Length x ≠ 64 then return false
  let signed := utf8 id ++ utf8 ed ++ utf8 x ++ beBytes (UInt64.ofInt created) ++ beBytes (UInt64.ofInt expires)
  let publicKey ← hexToBytes O ed
  let signatureHex ← getString I.valueOf payload "signature_hex"
  let signature ← hexToBytes O signatureHex
  if signature.length ≠ 64 then return false
  let idBytes ← hexToBytes O id
  if (C.hashNodeId publicKey).bytes ≠ idBytes then return false
  if C.edKeyValid publicKey = false then throw .library
  return C.edVerify publicKey signed signature

def verifyRustCompatibleInvite (payload : Json) (clock : Clock) : Bool :=
  match checkRustCompatibleInvite C O I payload clock with
  | .ok accepted => accepted
  | .error _ => false

/-- What `addContact` goes on with: the id, both keys and the name of an invite. -/
structure ReadInvite where
  parsedId : String
  inviteEdKey : String
  inviteXKey : String
  invitedName : String
deriving DecidableEq

/-- The object that a link carries, if its text is one. -/
def inviteObject (inviteOrId : String) : Option Json :=
  let cleanInput := (MnemonicHelper.kotlinTrim inviteOrId).toList
  if invitePrefix.toList.isPrefixOf cleanInput then
    let encoded := (cleanInput.drop invitePrefix.toList.length).takeWhile (· ≠ '?')
    match (I.decodeAndroid (String.ofList encoded)).bind O.parse with
    | some (.object fields) => some (.object fields)
    | _ => none
  else none

/-- What `addContact` reads of a link, if it is an invite and is accepted. -/
def readInvite (inviteOrId : String) (clock : Clock) : Option ReadInvite :=
  match inviteObject O I inviteOrId with
  | none => none
  | some invite =>
    if verifyRustCompatibleInvite C O I invite clock then
      match getString I.valueOf invite "user_id", getString I.valueOf invite "ed25519_pub_hex",
        getString I.valueOf invite "x25519_pub_hex" with
      | .ok id, .ok ed, .ok x =>
        let invitedName := match opt invite "display_name" with
          | some (.string name) => name
          | some v => I.valueOf v
          | none => ""
        if utf16Length id ≠ 40 ∨ id.toList.any (fun c => (O.digit c).isNone) then none
        else some ⟨I.lowercase id, I.lowercase ed, I.lowercase x, invitedName⟩
      | _, _, _ => none
    else none

end Model

/-! ## What the platforms agree on -/

/-- The alphabet of Base64 in a link. -/
def isLinkChar (c : Char) : Bool :=
  let n := c.toNat
  (48 ≤ n && n ≤ 57) || (65 ≤ n && n ≤ 90) || (97 ≤ n && n ≤ 122) || n == 45 || n == 95

/-- Each platform reads the Base64 and the JSON that the other writes, where the times are a `Long`, and the digits of
hex are what they are. -/
structure InvitePlatforms.Agree (O : OrgJson) (T : PresenceText) (D : CardSources) (I : InvitePlatforms) : Prop where
  decodeRust : ∀ bs, D.decodeBase64 (I.encodeAndroid bs) = .ok bs
  decodeAndroid : ∀ bs, I.decodeAndroid (I.encodeRust bs) = some bs
  alphabetAndroid : ∀ bs, ∀ c ∈ (I.encodeAndroid bs).toList, isLinkChar c = true
  alphabetRust : ∀ bs, ∀ c ∈ (I.encodeRust bs).toList, isLinkChar c = true
  parseInvite : ∀ bs v p, I.serde.parse bs = some v → InvitePayload.ofJson T v = some p → D.parseInvite bs = .ok p
  serdeReads : ∀ p : InvitePayload, p.createdAt.toNat < 2 ^ 63 → p.expiresAt.toNat < 2 ^ 63 →
    I.serde.parse (O.print (p.toJson T)) = some (p.toJson T)
  androidReads : ∀ p : InvitePayload, p.createdAt.toNat < 2 ^ 63 → p.expiresAt.toNat < 2 ^ 63 →
    O.parse (I.serde.print (p.toJson T)) = some (p.toJson T)
  digit : ∀ n : Fin 16, O.digit (hexDigit (UInt8.ofNat n)) = some n
  lowercase : ∀ bs, I.lowercase (hexString bs) = hexString bs

theorem not_space_of_isLinkChar {c : Char} (h : isLinkChar c = true) :
    isWhitespace c = false ∧ MnemonicHelper.isKotlinSpace c = false ∧ c ≠ '?' := by
  unfold isLinkChar at h
  simp only [Bool.or_eq_true, Bool.and_eq_true, decide_eq_true_eq, beq_iff_eq] at h
  refine ⟨?_, ?_, ?_⟩
  · unfold isWhitespace
    simp
    omega
  · unfold MnemonicHelper.isKotlinSpace
    simp
    omega
  · rintro rfl
    revert h
    decide

/-! ## Hex and fingerprints -/

theorem toList_hexString_cons (b : UInt8) (bs : Bytes) :
    (hexString (b :: bs)).toList = hexDigit (b >>> 4) :: hexDigit (b &&& 15) :: (hexString bs).toList := by
  unfold hexString
  rw [String.toList_ofList, String.toList_ofList, List.flatMap_cons]
  rfl

theorem inviteHexDecode_hexString (bs : Bytes) : inviteHexDecode (hexString bs) = .ok bs := by
  have hpairs := hexPairs_hexString bs
  have hlen := NodeId.hexPairs_length hpairs
  unfold inviteHexDecode
  rw [if_neg (by omega), hpairs]

theorem hexDigit_lt (b : UInt8) : (hexDigit (b >>> 4)).toNat < 65536 ∧ (hexDigit (b &&& 15)).toNat < 65536 :=
  forall_uint8 (p := fun b => (hexDigit (b >>> 4)).toNat < 65536 ∧ (hexDigit (b &&& 15)).toNat < 65536)
    (by decide +kernel) b

theorem utf16Length_hexString : ∀ bs : Bytes, utf16Length (hexString bs) = 2 * bs.length
  | [] => rfl
  | b :: bs => by
    have ih := utf16Length_hexString bs
    obtain ⟨hhigh, hlow⟩ := hexDigit_lt b
    unfold utf16Length at ih ⊢
    rw [toList_hexString_cons, List.map_cons, List.map_cons, List.sum_cons, List.sum_cons, if_pos hhigh, if_pos hlow,
      ih, List.length_cons]
    omega

theorem length_hexString : ∀ bs : Bytes, (hexString bs).toList.length = 2 * bs.length
  | [] => rfl
  | b :: bs => by
    rw [toList_hexString_cons, List.length_cons, List.length_cons, length_hexString bs, List.length_cons]
    omega

/-- The halves of a byte. -/
theorem exists_halves (b : UInt8) : ∃ high low : Fin 16, b >>> 4 = UInt8.ofNat high ∧ b &&& 15 = UInt8.ofNat low ∧
    UInt8.ofNat (16 * high + low) = b :=
  ⟨Fin.ofNat 16 (b.toNat / 16), Fin.ofNat 16 b.toNat,
    forall_uint8 (p := fun b => b >>> 4 = UInt8.ofNat (Fin.ofNat 16 (b.toNat / 16)).val ∧
      b &&& 15 = UInt8.ofNat (Fin.ofNat 16 b.toNat).val ∧
      UInt8.ofNat (16 * (Fin.ofNat 16 (b.toNat / 16)).val + (Fin.ofNat 16 b.toNat).val) = b) (by decide +kernel) b⟩

section Digits

variable {O : OrgJson} (hdigit : ∀ n : Fin 16, O.digit (hexDigit (UInt8.ofNat n)) = some n)
include hdigit

theorem digits_hexString : ∀ bs : Bytes, ∃ digits, (hexString bs).toList.mapM O.digit = some digits ∧
    digitPairs digits = some bs
  | [] => ⟨[], rfl, rfl⟩
  | b :: bs => by
    obtain ⟨digits, hread, hpairs⟩ := digits_hexString bs
    obtain ⟨high, low, hhigh, hlow, hbyte⟩ := exists_halves b
    refine ⟨high :: low :: digits, ?_, ?_⟩
    · rw [toList_hexString_cons, hhigh, hlow, List.mapM_cons, List.mapM_cons, hdigit, hdigit, hread]
      rfl
    · rw [digitPairs, hpairs, Option.map_some, hbyte]

theorem hexToBytes_hexString (bs : Bytes) : hexToBytes O (hexString bs) = .ok bs := by
  obtain ⟨digits, hread, hpairs⟩ := digits_hexString hdigit bs
  unfold hexToBytes
  rw [hread, Option.bind_some, hpairs]

theorem isSome_digit_hexString (bs : Bytes) : (hexString bs).toList.any (fun c => (O.digit c).isNone) = false := by
  induction bs with
  | nil => rfl
  | cons b bs ih =>
    obtain ⟨high, low, hhigh, hlow, -⟩ := exists_halves b
    rw [toList_hexString_cons, List.any_cons, List.any_cons, hhigh, hlow, hdigit, hdigit, ih]
    rfl

end Digits

/-- The groups of four are the pieces that `chunked` cuts. -/
theorem fingerprint_eq {C : Crypto} (id : UserIdentity C) :
    id.fingerprint = ":".intercalate ((chunked 4 id.userIdHex.toList).map String.ofList) := by
  have hhex : hexString (C.hashNodeId id.verifyingKey).bytes = id.userIdHex := by
    unfold UserIdentity.userIdHex NodeId.toHex
    rw [id.userId_eq]
    rfl
  unfold UserIdentity.fingerprint chunked
  rw [hhex, pieces_eq_map, List.map_map]
  rfl

/-! ## The invite of an identity -/

section Invite

variable {C : Crypto} {O : OrgJson} {T : PresenceText} {D : CardSources} {I : InvitePlatforms}

/-- What both platforms write about an identity. -/
def signedInvite (identity : UserIdentity C) (displayName : String) (endpoints : List SocketAddr)
    (createdAt expiresAt : UInt64) : InvitePayload :=
  let unsigned : InvitePayload :=
    { userId := identity.userIdHex, ed25519PubHex := hexString identity.verifyingKey
      x25519PubHex := hexString identity.x25519Public, displayName, fingerprint := identity.fingerprint, endpoints
      createdAt, expiresAt, signatureHex := "" }
  { unsigned with signatureHex := hexString (identity.sign unsigned.signData) }

theorem createInvite_eq (identity : UserIdentity C) (displayName : String) (endpoints : List SocketAddr)
    (ttlSeconds : Option UInt64) (now : UInt64) :
    createInvite C T I identity displayName endpoints ttlSeconds now = invitePrefix ++ I.encodeRust (I.serde.print
      ((signedInvite identity displayName endpoints now (now + ttlSeconds.getD defaultInviteTtlSecs)).toJson T)) :=
  rfl

/-- The times of a clock are written as they are. -/
theorem toNat_seconds (clock : Clock) : (UInt64.ofNat clock.seconds).toNat = clock.seconds ∧
    (UInt64.ofNat (clock.seconds + 604800)).toNat = clock.seconds + 604800 := by
  have hlt := seconds_lt clock
  exact ⟨UInt64.toNat_ofNat_of_lt (hlt.trans (by decide)),
    UInt64.toNat_ofNat_of_lt ((Nat.add_lt_add_right hlt _).trans (by decide))⟩

theorem createRustCompatibleInvite_eq (seed : Bytes) (displayName : String) (clock : Clock) :
    createRustCompatibleInvite C O I seed displayName clock = invitePrefix ++ I.encodeAndroid (O.print
      ((signedInvite (.fromSeed C seed) displayName [] (UInt64.ofNat clock.seconds)
        (UInt64.ofNat (clock.seconds + 604800))).toJson T)) := by
  obtain ⟨hcreated, hexpires⟩ := toNat_seconds clock
  unfold signedInvite InvitePayload.toJson
  dsimp only
  rw [fingerprint_eq, hcreated, hexpires]
  rfl

theorem accepted_signedInvite (hC : C.Correct) {identity : UserIdentity C} (hid : identity.WellSized)
    (displayName : String) (endpoints : List SocketAddr) (createdAt expiresAt : UInt64) :
    (signedInvite identity displayName endpoints createdAt expiresAt).Accepted C identity.verifyingKey
      (identity.sign (signedInvite identity displayName endpoints createdAt expiresAt).signData) := by
  have hkey := identity.verifyingKey_eq
  refine ⟨inviteHexDecode_hexString _, ?_, ?_, inviteHexDecode_hexString _, hC.edSign_length _ _ hid.signingKey, ?_,
    ?_⟩
  · rw [hkey]
    exact hC.edPublic_length _ hid.signingKey
  · exact congrArg NodeId.toHex identity.userId_eq
  · rw [hkey]
    exact hC.edPublic_valid _ hid.signingKey
  · have hverifies := hC.edVerify_edSign identity.signingKey
      (signedInvite identity displayName endpoints createdAt expiresAt).signData hid.signingKey
    rw [← hkey] at hverifies
    exact hverifies

theorem check_signedInvite (hC : C.Correct) {identity : UserIdentity C} (hid : identity.WellSized)
    (displayName : String) (endpoints : List SocketAddr) (createdAt : UInt64) {expiresAt now : UInt64}
    (hnow : now < expiresAt) : (signedInvite identity displayName endpoints createdAt expiresAt).check C T now =
      .ok (signedInvite identity displayName endpoints createdAt expiresAt) := by
  have haccepted := accepted_signedInvite hC hid displayName endpoints createdAt expiresAt
  exact InvitePayload.check_eq_ok_iff.2 ⟨rfl, hnow, _, _, haccepted⟩

/-- No blanks stand in a link. -/
theorem not_space_of_mem_link {encoded : String} (h : ∀ c ∈ encoded.toList, isLinkChar c = true) :
    ∀ c ∈ (invitePrefix ++ encoded).toList, isWhitespace c = false ∧ MnemonicHelper.isKotlinSpace c = false := by
  intro c hc
  rw [String.toList_append] at hc
  rcases List.mem_append.1 hc with hc | hc
  · have hprefix : invitePrefix.toList.all (fun c => !isWhitespace c && !MnemonicHelper.isKotlinSpace c) = true := by
      decide
    have hspace := List.all_eq_true.1 hprefix c hc
    simpa using hspace
  · exact ⟨(not_space_of_isLinkChar (h c hc)).1, (not_space_of_isLinkChar (h c hc)).2.1⟩

/-- Neither platform strips anything of a link. -/
theorem trim_link {encoded : String} (h : ∀ c ∈ encoded.toList, isLinkChar c = true) :
    trim (invitePrefix ++ encoded) = invitePrefix ++ encoded ∧
      MnemonicHelper.kotlinTrim (invitePrefix ++ encoded) = invitePrefix ++ encoded :=
  ⟨trim_eq_self fun c hc => (not_space_of_mem_link h c hc).1,
    MnemonicHelper.kotlinTrim_eq_self fun c hc => (not_space_of_mem_link h c hc).2⟩

theorem parseAndVerifyInvite_link {encoded : String} (h : ∀ c ∈ encoded.toList, isLinkChar c = true) {bs : Bytes}
    {p : InvitePayload} {now : UInt64} (hdecode : D.decodeBase64 encoded = .ok bs) (hparse : D.parseInvite bs = .ok p) :
    parseAndVerifyInvite C T D (invitePrefix ++ encoded) now = p.check C T now := by
  unfold parseAndVerifyInvite
  rw [(trim_link h).1, String.toList_append]
  dsimp only
  rw [if_pos (by simp), List.drop_left, String.ofList_toList, hdecode]
  dsimp only
  rw [hparse]

theorem inviteObject_link {encoded : String} (h : ∀ c ∈ encoded.toList, isLinkChar c = true) {bs : Bytes}
    {fields : List (String × Json)} (hdecode : I.decodeAndroid encoded = some bs)
    (hparse : O.parse bs = some (.object fields)) :
    inviteObject O I (invitePrefix ++ encoded) = some (.object fields) := by
  have htake : encoded.toList.takeWhile (· ≠ '?') = encoded.toList :=
    List.takeWhile_eq_self_iff.2 fun c hc => decide_eq_true (not_space_of_isLinkChar (h c hc)).2.2
  unfold inviteObject
  rw [(trim_link h).2, String.toList_append]
  dsimp only
  rw [if_pos (by simp), List.drop_left, htake, String.ofList_toList, hdecode, Option.bind_some, hparse]

/-- The crates read what Android wrote. -/
theorem parseAndVerifyInvite_android (hC : C.Correct) (hI : I.Agree O T D) (seed : Bytes) (displayName : String)
    (clock : Clock) {now : UInt64} (hnow : now.toNat < clock.seconds + 604800) :
    parseAndVerifyInvite C T D (createRustCompatibleInvite C O I seed displayName clock) now =
      .ok (signedInvite (.fromSeed C seed) displayName [] (UInt64.ofNat clock.seconds)
        (UInt64.ofNat (clock.seconds + 604800))) := by
  obtain ⟨hcreated, hexpires⟩ := toNat_seconds clock
  have hlt := seconds_lt clock
  have hpast : (UInt64.ofNat clock.seconds).toNat < 2 ^ 63 := by omega
  have hfuture : (UInt64.ofNat (clock.seconds + 604800)).toNat < 2 ^ 63 := by omega
  have hread := hI.serdeReads (signedInvite (.fromSeed C seed) displayName [] (UInt64.ofNat clock.seconds)
    (UInt64.ofNat (clock.seconds + 604800))) hpast hfuture
  have hparse := hI.parseInvite _ _ _ hread (InvitePayload.ofJson_toJson T rfl)
  have hnow' : now < UInt64.ofNat (clock.seconds + 604800) := by
    rw [UInt64.lt_iff_toNat_lt, hexpires]
    exact hnow
  rw [createRustCompatibleInvite_eq (T := T), parseAndVerifyInvite_link (hI.alphabetAndroid _) (hI.decodeRust _) hparse]
  exact check_signedInvite hC (UserIdentity.wellSized_fromSeed hC seed) displayName [] _ hnow'

theorem getLong_nat {env : Json} {name : String} {n : Nat} (h : opt env name = some (.nat n)) (hn : n < 2 ^ 63) :
    getLong O env name = .ok n := by
  unfold getLong
  rw [h, Option.bind_some, toLong, if_pos hn]

/-- Android finds the texts of an invite under their names. -/
theorem getString_toJson (p : InvitePayload) : getString I.valueOf (p.toJson T) "user_id" = .ok p.userId ∧
    getString I.valueOf (p.toJson T) "ed25519_pub_hex" = .ok p.ed25519PubHex ∧
    getString I.valueOf (p.toJson T) "x25519_pub_hex" = .ok p.x25519PubHex ∧
    getString I.valueOf (p.toJson T) "signature_hex" = .ok p.signatureHex ∧
    opt (p.toJson T) "display_name" = some (.string p.displayName) :=
  ⟨rfl, rfl, rfl, rfl, rfl⟩

/-- Android takes what the crates accept, where its hex is read as the crates read it. -/
theorem checkRustCompatibleInvite_of_accepted {p : InvitePayload} {ed sig : Bytes} (h : p.Accepted C ed sig)
    (hed : hexToBytes O p.ed25519PubHex = .ok ed) (hsig : hexToBytes O p.signatureHex = .ok sig)
    (hid : hexToBytes O p.userId = .ok (C.hashNodeId ed).bytes) (hedLength : utf16Length p.ed25519PubHex = 64)
    (hxLength : utf16Length p.x25519PubHex = 64) (hcreated : p.createdAt.toNat < 2 ^ 63)
    (hexpires : p.expiresAt.toNat < 2 ^ 63) {clock : Clock} (hpast : p.createdAt.toNat ≤ clock.seconds + 300)
    (hfuture : clock.seconds < p.expiresAt.toNat) :
    checkRustCompatibleInvite C O I (p.toJson T) clock = .ok true := by
  obtain ⟨huser, hkey, hx, hsignature, -⟩ := getString_toJson (T := T) (I := I) p
  have hcreated' : getLong O (p.toJson T) "created_at" = .ok p.createdAt.toNat := getLong_nat rfl hcreated
  have hexpires' : getLong O (p.toJson T) "expires_at" = .ok p.expiresAt.toNat := getLong_nat rfl hexpires
  have hfits : ¬((p.expiresAt.toNat : Int) ≤ clock.seconds ∨ (clock.seconds : Int) + 300 < p.createdAt.toNat ∨
      utf16Length p.ed25519PubHex ≠ 64 ∨ utf16Length p.x25519PubHex ≠ 64) := by
    omega
  have hverifies : C.edVerify ed (utf8 p.userId ++ utf8 p.ed25519PubHex ++ utf8 p.x25519PubHex ++
      beBytes p.createdAt ++ beBytes p.expiresAt) sig = true := h.verifies
  simp only [checkRustCompatibleInvite, huser, hkey, hx, hsignature, hcreated', hexpires', bind, Except.bind]
  rw [if_neg hfits, hed, hsig]
  dsimp only
  rw [if_neg (not_not.2 h.signatureLength), hid]
  dsimp only
  rw [if_neg (not_not.2 rfl), if_neg (by rw [h.keyValid]; decide), ofInt_toNat, ofInt_toNat, hverifies]
  rfl

/-- Android reads what an identity signed, while it is not over and not from the future. -/
theorem readInvite_link (hC : C.Correct) (hI : I.Agree O T D) {identity : UserIdentity C} (hid : identity.WellSized)
    (displayName : String) (endpoints : List SocketAddr) {createdAt expiresAt : UInt64} {clock : Clock}
    (hcreated : createdAt.toNat < 2 ^ 63) (hexpires : expiresAt.toNat < 2 ^ 63)
    (hpast : createdAt.toNat ≤ clock.seconds + 300) (hfuture : clock.seconds < expiresAt.toNat) {link : String}
    (hlink : link = invitePrefix ++ I.encodeRust
      (I.serde.print ((signedInvite identity displayName endpoints createdAt expiresAt).toJson T))) :
    ∃ invite, inviteObject O I link = some invite ∧ verifyRustCompatibleInvite C O I invite clock = true ∧
      readInvite C O I link clock =
        some ⟨identity.userIdHex, hexString identity.verifyingKey, hexString identity.x25519Public, displayName⟩ := by
  have hedLength : utf16Length (hexString identity.verifyingKey) = 64 := by
    rw [utf16Length_hexString, identity.verifyingKey_eq, hC.edPublic_length _ hid.signingKey]
  have hxLength : utf16Length (hexString identity.x25519Public) = 64 := by
    rw [utf16Length_hexString, identity.x25519Public_eq, hC.xPublic_length _ hid.x25519Secret]
  have hidLength : utf16Length identity.userIdHex = 40 := by
    refine (utf16Length_hexString _).trans ?_
    rw [identity.userId.size]
  have hidBytes : hexToBytes O identity.userIdHex = .ok (C.hashNodeId identity.verifyingKey).bytes := by
    refine (hexToBytes_hexString hI.digit _).trans ?_
    rw [identity.userId_eq]
    rfl
  have hcheck : checkRustCompatibleInvite C O I ((signedInvite identity displayName endpoints createdAt
      expiresAt).toJson T) clock = .ok true :=
    checkRustCompatibleInvite_of_accepted (accepted_signedInvite hC hid displayName endpoints _ _)
      (hexToBytes_hexString hI.digit _) (hexToBytes_hexString hI.digit _)
      hidBytes hedLength hxLength hcreated hexpires hpast hfuture
  have hverify : verifyRustCompatibleInvite C O I ((signedInvite identity displayName endpoints createdAt
      expiresAt).toJson T) clock = true := by
    unfold verifyRustCompatibleInvite
    rw [hcheck]
  have hobject : inviteObject O I link =
      some ((signedInvite identity displayName endpoints createdAt expiresAt).toJson T) := by
    rw [hlink]
    exact inviteObject_link (hI.alphabetRust _) (hI.decodeAndroid _) (hI.androidReads _ hcreated hexpires)
  have hdigits : ¬(utf16Length identity.userIdHex ≠ 40 ∨
      identity.userIdHex.toList.any (fun c => (O.digit c).isNone) = true) := by
    have hany : identity.userIdHex.toList.any (fun c => (O.digit c).isNone) = false :=
      isSome_digit_hexString hI.digit identity.userId.bytes
    rw [hany]
    simp [hidLength]
  have hlower : I.lowercase identity.userIdHex = identity.userIdHex := hI.lowercase identity.userId.bytes
  obtain ⟨huser, hkey, hx, -, hname⟩ :=
    getString_toJson (T := T) (I := I) (signedInvite identity displayName endpoints createdAt expiresAt)
  refine ⟨_, hobject, hverify, ?_⟩
  unfold readInvite
  rw [hobject]
  dsimp only
  rw [if_pos hverify, huser, hkey, hx, hname]
  dsimp only [signedInvite]
  rw [if_neg hdigits, hlower, hI.lowercase, hI.lowercase]

/-- Android reads what the crates wrote. -/
theorem readInvite_createInvite (hC : C.Correct) (hI : I.Agree O T D) {identity : UserIdentity C}
    (hid : identity.WellSized) (displayName : String) (endpoints : List SocketAddr) {now : UInt64} {clock : Clock}
    (hpast : now.toNat ≤ clock.seconds + 300) (hfuture : clock.seconds < now.toNat + 604800) :
    ∃ invite, inviteObject O I (createInvite C T I identity displayName endpoints none now) = some invite ∧
      verifyRustCompatibleInvite C O I invite clock = true ∧
      readInvite C O I (createInvite C T I identity displayName endpoints none now) clock =
        some ⟨identity.userIdHex, hexString identity.verifyingKey, hexString identity.x25519Public, displayName⟩ := by
  have hlt := seconds_lt clock
  have hnow : now.toNat < 2 ^ 63 := by omega
  have httl : defaultInviteTtlSecs.toNat = 604800 := by decide
  have hsum : (now + defaultInviteTtlSecs).toNat = now.toNat + 604800 := by
    rw [UInt64.toNat_add, httl, Nat.mod_eq_of_lt (by omega)]
  have hlater : (now + defaultInviteTtlSecs).toNat < 2 ^ 63 := by omega
  have hlink := createInvite_eq (T := T) (I := I) identity displayName endpoints none now
  rw [Option.getD_none] at hlink
  exact readInvite_link hC hI hid displayName endpoints hnow hlater hpast (hfuture.trans_eq hsum.symm) hlink

/-- What either platform writes about an identity the other one accepts, in its time, with the same id, keys and name;
the fingerprint of Android's invite is the one the crates compute. -/
theorem invites_interoperate (hC : C.Correct) (hI : I.Agree O T D) :
    (∀ seed displayName clock, ∀ now : UInt64, now.toNat < clock.seconds + 604800 →
      ∃ p, parseAndVerifyInvite C T D (createRustCompatibleInvite C O I seed displayName clock) now = .ok p ∧
        p.userId = (UserIdentity.fromSeed C seed).userIdHex ∧
        p.ed25519PubHex = hexString (UserIdentity.fromSeed C seed).verifyingKey ∧
        p.x25519PubHex = hexString (UserIdentity.fromSeed C seed).x25519Public ∧ p.displayName = displayName ∧
        p.fingerprint = (UserIdentity.fromSeed C seed).fingerprint) ∧
    ∀ identity : UserIdentity C, identity.WellSized → ∀ displayName endpoints, ∀ now : UInt64, ∀ clock,
      now.toNat ≤ clock.seconds + 300 → clock.seconds < now.toNat + 604800 →
      ∃ invite, inviteObject O I (createInvite C T I identity displayName endpoints none now) = some invite ∧
        verifyRustCompatibleInvite C O I invite clock = true ∧
        readInvite C O I (createInvite C T I identity displayName endpoints none now) clock =
          some ⟨identity.userIdHex, hexString identity.verifyingKey, hexString identity.x25519Public, displayName⟩ := by
  constructor
  · intro seed displayName clock now hnow
    exact ⟨_, parseAndVerifyInvite_android hC hI seed displayName clock hnow, rfl, rfl, rfl, rfl, rfl⟩
  · intro identity hid displayName endpoints now clock hpast hfuture
    exact readInvite_createInvite hC hI hid displayName endpoints hpast hfuture

end Invite

/-! ## Alice and Bob -/

namespace Invites

open NodeX.Sample Sample AlteredInvite

/-- An invite as an object, the fields in the order of the declaration. -/
def inviteText : Codec (String × String × String × String × String × List String × Nat × Nat × String) :=
  Codec.before (utf8 "\x7b\"user_id\":") (Codec.pair NodeX.Json.utf8Text
    (fieldThen "\"ed25519_pub_hex\":" NodeX.Json.utf8Text
      (fieldThen "\"x25519_pub_hex\":" NodeX.Json.utf8Text
        (fieldThen "\"display_name\":" NodeX.Json.utf8Text
          (fieldThen "\"fingerprint\":" NodeX.Json.utf8Text
            (fieldThen "\"endpoints\":" NodeX.Json.utf8Texts
              (fieldThen "\"created_at\":" Codec.nat
                (fieldThen "\"expires_at\":" Codec.nat (lastField "\"signature_hex\":" NodeX.Json.utf8Text)
                  (stops_lastField _ _)) (stops_fieldThen _ _ _ _)) (stops_fieldThen _ _ _ _))
            (stops_fieldThen _ _ _ _)) (stops_fieldThen _ _ _ _)) (stops_fieldThen _ _ _ _))
      (stops_fieldThen _ _ _ _)) (stops_fieldThen _ _ _ _))

abbrev InviteParts := String × String × String × String × String × List String × Nat × Nat × String

def partsOf (p : InvitePayload) : InviteParts :=
  (p.userId, p.ed25519PubHex, p.x25519PubHex, p.displayName, p.fingerprint, p.endpoints.map OldCard.showAddr,
    p.createdAt.toNat, p.expiresAt.toNat, p.signatureHex)

def ofParts : InviteParts → Json
  | (userId, ed, x, displayName, fingerprint, endpoints, createdAt, expiresAt, signature) =>
    .object [("user_id", .string userId), ("ed25519_pub_hex", .string ed), ("x25519_pub_hex", .string x),
      ("display_name", .string displayName), ("fingerprint", .string fingerprint),
      ("endpoints", .array (endpoints.map .string)), ("created_at", .nat createdAt), ("expires_at", .nat expiresAt),
      ("signature_hex", .string signature)]

def nat? : Json → Option Nat
  | .nat n => some n
  | _ => none

def strings? : Json → Option (List String)
  | .array items => items.mapM Json.string?
  | _ => none

/-- The parts of an object with the fields of an invite. -/
def parts? : Json → Option InviteParts
  | .object fields => do
    some (← Json.required? fields "user_id" Json.string?, ← Json.required? fields "ed25519_pub_hex" Json.string?,
      ← Json.required? fields "x25519_pub_hex" Json.string?, ← Json.required? fields "display_name" Json.string?,
      ← Json.required? fields "fingerprint" Json.string?, ← Json.required? fields "endpoints" strings?,
      ← Json.required? fields "created_at" nat?, ← Json.required? fields "expires_at" nat?,
      ← Json.required? fields "signature_hex" Json.string?)
  | _ => none

theorem ofParts_partsOf (p : InvitePayload) : ofParts (partsOf p) = p.toJson OldCard.text := by
  unfold ofParts partsOf InvitePayload.toJson
  simp only [List.map_map]
  rfl

theorem strings?_array (texts : List String) : strings? (.array (texts.map .string)) = some texts := by
  show (texts.map Json.string).mapM Json.string? = some texts
  induction texts with
  | nil => rfl
  | cons s texts ih =>
    rw [List.map_cons, List.mapM_cons, ih]
    rfl

theorem parts?_ofParts : ∀ parts : InviteParts, parts? (ofParts parts) = some parts := by
  rintro ⟨userId, ed, x, displayName, fingerprint, endpoints, createdAt, expiresAt, signature⟩
  have hendpoints := strings?_array endpoints
  simp [parts?, ofParts, Json.required?, Json.field?, Json.string?, nat?, hendpoints]

/-- JSON of invites, and nothing else. -/
def writeInvite (v : Json) : Bytes := (parts? v).elim [] inviteText.print

def parseInvite (bs : Bytes) : Option Json := (inviteText.parseAll bs).map ofParts

theorem parseInvite_writeInvite (p : InvitePayload) :
    parseInvite (writeInvite (p.toJson OldCard.text)) = some (p.toJson OldCard.text) := by
  unfold parseInvite writeInvite
  rw [← ofParts_partsOf, parts?_ofParts, Option.elim_some, inviteText.parseAll_print, Option.map_some]

theorem mod_sixteen_lt (n : Nat) : n % 16 < 16 := Nat.mod_lt n (by decide)

def org : OrgJson where
  toInteger _ := none
  toLong _ := none
  digit c := if c.toNat < 256 then (hexValue c.toNat.toUInt8).map fun d => ⟨d.toNat % 16, mod_sixteen_lt d.toNat⟩
    else none
  parse := parseInvite
  print := writeInvite

/-- Capital letters of ASCII are written small. -/
def lowercase (s : String) : String :=
  String.ofList (s.toList.map fun c => if 65 ≤ c.toNat ∧ c.toNat ≤ 90 then Char.ofNat (c.toNat + 32) else c)

def platforms : InvitePlatforms where
  serde := ⟨writeInvite, parseInvite⟩
  encodeRust bs := String.ofList (base64Chars bs)
  encodeAndroid bs := String.ofList (base64Chars bs)
  decodeAndroid s := some (base64Bytes s.toList)
  valueOf _ := ""
  lowercase

def linkSources : CardSources where
  decodeBase64 s := .ok (base64Bytes s.toList)
  parseInvite bs := ((parseInvite bs).bind (InvitePayload.ofJson OldCard.text)).elim
    (.error "EOF while parsing a value at line 1 column 0") .ok
  extractContact _ _ := .error "No stego contact"

theorem isLinkChar_base64Char (n : Nat) : isLinkChar (base64Char n) = true := by
  by_cases hn : n < 63
  · exact (by decide : ∀ n : Fin 63, isLinkChar (base64Char n) = true) ⟨n, hn⟩
  · have hchar : base64Char n = '_' := by
      unfold base64Char
      rw [if_neg (by omega), if_neg (by omega), if_neg (by omega), if_neg (by omega)]
    rw [hchar]
    decide

theorem isLinkChar_base64Chars : ∀ {bs : Bytes}, ∀ c ∈ base64Chars bs, isLinkChar c = true
  | [], c, hc => by cases hc
  | [a], c, hc => by
    simp only [base64Chars, List.mem_cons, List.not_mem_nil, or_false] at hc
    rcases hc with rfl | rfl <;> exact isLinkChar_base64Char _
  | [a, b], c, hc => by
    simp only [base64Chars, List.mem_cons, List.not_mem_nil, or_false] at hc
    rcases hc with rfl | rfl | rfl <;> exact isLinkChar_base64Char _
  | a :: b :: c' :: rest, c, hc => by
    simp only [base64Chars, List.mem_cons] at hc
    rcases hc with rfl | rfl | rfl | rfl | hc
    iterate 4 exact isLinkChar_base64Char _
    exact isLinkChar_base64Chars c hc

theorem lowercase_hexString (bs : Bytes) : lowercase (hexString bs) = hexString bs := by
  have hsmall : ∀ b : UInt8, ¬(65 ≤ (hexDigit (b >>> 4)).toNat ∧ (hexDigit (b >>> 4)).toNat ≤ 90) ∧
      ¬(65 ≤ (hexDigit (b &&& 15)).toNat ∧ (hexDigit (b &&& 15)).toNat ≤ 90) :=
    forall_uint8 (p := fun b => ¬(65 ≤ (hexDigit (b >>> 4)).toNat ∧ (hexDigit (b >>> 4)).toNat ≤ 90) ∧
      ¬(65 ≤ (hexDigit (b &&& 15)).toNat ∧ (hexDigit (b &&& 15)).toNat ≤ 90)) (by decide +kernel)
  suffices h : (hexString bs).toList.map
      (fun c => if 65 ≤ c.toNat ∧ c.toNat ≤ 90 then Char.ofNat (c.toNat + 32) else c) = (hexString bs).toList by
    unfold lowercase
    rw [h, String.ofList_toList]
  induction bs with
  | nil => rfl
  | cons b bs ih =>
    obtain ⟨hhigh, hlow⟩ := hsmall b
    rw [toList_hexString_cons, List.map_cons, List.map_cons, if_neg hhigh, if_neg hlow, ih]

theorem agree : platforms.Agree org OldCard.text linkSources where
  decodeRust bs := by
    show Except.ok (base64Bytes (String.ofList (base64Chars bs)).toList) = _
    rw [String.toList_ofList, base64Bytes_base64Chars]
  decodeAndroid bs := by
    show some (base64Bytes (String.ofList (base64Chars bs)).toList) = _
    rw [String.toList_ofList, base64Bytes_base64Chars]
  alphabetAndroid bs c hc := isLinkChar_base64Chars c (String.toList_ofList ▸ hc)
  alphabetRust bs c hc := isLinkChar_base64Chars c (String.toList_ofList ▸ hc)
  parseInvite bs v p hv hp := by
    have hread : parseInvite bs = some v := hv
    show ((parseInvite bs).bind (InvitePayload.ofJson OldCard.text)).elim _ _ = _
    rw [hread, Option.bind_some, hp]
    rfl
  serdeReads p _ _ := parseInvite_writeInvite p
  androidReads p _ _ := parseInvite_writeInvite p
  digit := by decide
  lowercase := lowercase_hexString

def clock : Clock := ⟨1700000000123, by decide⟩

end Invites

open NodeX.Sample Invites in
/-- Alice's phone writes an invite that Bob's computer reads an hour later, and Bob answers with his. -/
theorem invites_interoperate_alice :
    (∃ p, parseAndVerifyInvite .transparent OldCard.text linkSources
        (createRustCompatibleInvite .transparent org platforms (List.replicate 32 9) "Alice \"A\"" clock) 1700003600 =
          .ok p ∧
      p.userId = alice.userIdHex ∧ p.displayName = "Alice \"A\"" ∧ p.fingerprint = alice.fingerprint) ∧
    readInvite .transparent org platforms
        (createInvite .transparent OldCard.text platforms bob "Bob" [OldCard.oldAddr] none 1700000200) clock =
      some ⟨bob.userIdHex, hexString bob.verifyingKey, hexString bob.x25519Public, "Bob"⟩ := by
  obtain ⟨handroid, hrust⟩ := invites_interoperate Crypto.transparent_correct agree
  constructor
  · obtain ⟨p, hp, huser, -, -, hname, hfingerprint⟩ :=
      handroid (List.replicate 32 9) "Alice \"A\"" clock 1700003600 (by decide)
    exact ⟨p, hp, huser, hname, hfingerprint⟩
  · obtain ⟨-, -, -, hread⟩ :=
      hrust bob Sample.wellSized_bob "Bob" [OldCard.oldAddr] 1700000200 clock (by decide) (by decide)
    exact hread

end Messenger

end NodeX
