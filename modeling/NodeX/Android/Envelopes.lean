/-
Envelopes that come in (`handleEnvelopeObject`, `processStorePayload`): a record of the mailbox is an array that any
stranger may append to. Whether an element throws depends on that element alone.
-/
import NodeX.Android.Payloads

namespace NodeX.Android

open NodeX.Lib Messenger AndroidMessageCrypto

variable (P : Account)

/-! ## One envelope -/

/-- `hexToBytes` of the engine: digits in pairs, or the text itself, cut or filled with zeros. -/
def looseHexToBytes (K : Kotlin) (hex : String) (targetLen : Nat) : Bytes :=
  let cleaned := clean K hex
  let bs := ((chunked 2 cleaned.toList).mapM fun d => (K.toInt16 (String.ofList d)).map UInt8.ofInt).getD (utf8 cleaned)
  bs.take targetLen ++ List.replicate (targetLen - bs.length) 0

/-- `getBytes` of the engine. -/
def getBytes (env : Json) (key : String) : Except Thrown Bytes :=
  match opt env key with
  | some (.array items) =>
    match items.mapM (byteOf P.O) with
    | some bs => .ok bs
    | none => .error .library
  | some (.string hex) => .ok (looseHexToBytes P.K hex 32)
  | some _ => .error (.illegal ("Invalid byte array: " ++ key))
  | none => .error .library

/-- The sender an envelope names, or the one its packet came from. -/
def claimedSender (env : Json) (fallbackSenderHex senderEndpoint : String) : Except Thrown String :=
  match opt env "sender_id" with
  | some (.array items) =>
    match items.mapM (byteOf P.O) with
    | some bs => .ok (hexString bs)
    | none => .error .library
  | some (.string s) => .ok (clean P.K s)
  | some v => .ok (clean P.K (P.K.valueOf v))
  | none =>
    let cleanFallback := clean P.K fallbackSenderHex
    if 16 ≤ utf16Length cleanFallback && !startsWith cleanFallback "00000000" &&
        !startsWith senderEndpoint bootstrapHost then .ok cleanFallback
    else .ok ""

/-- Endpoints that a peer is reached at. -/
def isPeerEndpoint (endpoint : String) : Bool :=
  !isBlank endpoint && !startsWith endpoint bootstrapHost && !startsWith endpoint "0.0.0.0" &&
    !startsWith endpoint "127.0.0.1" && !startsWith endpoint "10.0.2.2"

/-- What `handleEnvelopeObject` reads of an envelope: who it is from and its payload, if it is accepted. -/
def openedBy (env : Json) (fallbackSenderHex senderEndpoint : String) (clock : Clock) :
    Except Thrown (Option (String × Json)) := do
  if optInt P.O env "version" 0 < 3 then return none
  let actualSenderHex ← claimedSender P env fallbackSenderHex senderEndpoint
  if Phone.isNoPeer actualSenderHex || P.K.sameIgnoringCase actualSenderHex P.localNodeIdHex then return none
  match openEnvelope P.O P.C P.seed env clock with
  | .error _ => return none
  | .ok (verifiedSenderId, payload) =>
    if P.K.sameIgnoringCase verifiedSenderId actualSenderHex = false then return none
    return some (verifiedSenderId, payload)

namespace Phone

/-- What an accepted envelope does. -/
def takeEnvelope (s : Phone) (env : Json) (verifiedSenderId : String) (payload : Json) (senderEndpoint : String)
    (x : Surroundings) : Phone :=
  let s := if isPeerEndpoint senderEndpoint then s.recordEndpoint P verifiedSenderId senderEndpoint else s
  match getBytes P env "sender_ed25519_pub", getBytes P env "sender_x25519_pub" with
  | .ok edKey, .ok xKey =>
    let s : Phone := { s with verifiedContactKeys := s.verifiedContactKeys.put verifiedSenderId (edKey, xKey) }
    (s.updateVerifiedContactKeys P.C P.O P.K verifiedSenderId edKey xKey true).handleDirectPayload P payload
      verifiedSenderId x
  | _, _ => s

def handleEnvelopeObject (s : Phone) (env : Json) (fallbackSenderHex senderEndpoint : String) (x : Surroundings) :
    Except Thrown Phone :=
  match openedBy P env fallbackSenderHex senderEndpoint x.clock with
  | .error e => .error e
  | .ok none => .ok s
  | .ok (some (verifiedSenderId, payload)) => .ok (s.takeEnvelope P env verifiedSenderId payload senderEndpoint x)

/-! ## A record -/

def isDrained (jsonStr : String) : Bool := containsText jsonStr "\"drained\":true"

/-- The entries of a record; nothing if it is empty, drained or not read. -/
def entriesOf (valueBytes : Bytes) : List Json :=
  let jsonStr := MnemonicHelper.kotlinTrim (P.K.decodeText valueBytes)
  if jsonStr.isEmpty || isDrained jsonStr then []
  else if startsWith jsonStr "[" then (P.K.parseArray jsonStr).getD []
  else
    match P.O.parse (utf8 jsonStr) with
    | some (.object fields) => [.object fields]
    | _ => []

/-- The loop over the entries; the loop before it only looks. What is thrown ends it. -/
def handleEntries (s : Phone) (senderHex senderEndpoint : String) (xs : Nat → Surroundings) : Nat → List Json → Phone
  | _, [] => s
  | i, .object fields :: rest =>
    match s.handleEnvelopeObject P (.object fields) senderHex senderEndpoint (xs i) with
    | .ok s' => handleEntries s' senderHex senderEndpoint xs (i + 1) rest
    | .error _ => s
  | _, _ :: _ => s

def processStorePayload (s : Phone) (valueBytes : Bytes) (senderHex senderEndpoint : String) (xs : Nat → Surroundings) :
    Phone := s.handleEntries P senderHex senderEndpoint xs 0 (entriesOf P valueBytes)

/-- The calls of `handleEnvelopeObject` that the loop makes, each with the state it starts from. -/
def entryCalls (s : Phone) (senderHex senderEndpoint : String) (xs : Nat → Surroundings) :
    Nat → List Json → List (Phone × Json)
  | _, [] => []
  | i, .object fields :: rest =>
    (s, .object fields) ::
      match s.handleEnvelopeObject P (.object fields) senderHex senderEndpoint (xs i) with
      | .ok s' => entryCalls s' senderHex senderEndpoint xs (i + 1) rest
      | .error _ => []
  | _, _ :: _ => []

end Phone

/-- There is no blank in a text of hex. -/
theorem kotlinTrim_hexString (bs : Bytes) : MnemonicHelper.kotlinTrim (hexString bs) = hexString bs := by
  have hdigits : ∀ b : UInt8, MnemonicHelper.isKotlinSpace (hexDigit (b >>> 4)) = false ∧
      MnemonicHelper.isKotlinSpace (hexDigit (b &&& 15)) = false :=
    forall_uint8 (p := fun b => MnemonicHelper.isKotlinSpace (hexDigit (b >>> 4)) = false ∧
      MnemonicHelper.isKotlinSpace (hexDigit (b &&& 15)) = false) (by decide +kernel)
  refine MnemonicHelper.kotlinTrim_eq_self ?_
  intro c hc
  unfold hexString at hc
  rw [String.toList_ofList] at hc
  obtain ⟨b, -, hcb⟩ := List.mem_flatMap.1 hc
  rcases List.mem_cons.1 hcb with rfl | hcb
  · exact (hdigits b).1
  · rw [List.mem_singleton.1 hcb]
    exact (hdigits b).2

/-! ## Bob's phone -/

namespace BobsPhone

open NodeX.Sample Messenger.Sample

def lowercase (s : String) : String := String.ofList (s.toList.map Char.toLower)

/-- ASCII texts, and the arrays that are known. -/
def kotlin (parseArray : String → Option (List Json)) : Kotlin where
  lowercase
  sameIgnoringCase a b := lowercase a == lowercase b
  toInt16 s := if s.isEmpty then none else
    (s.toList.mapM emptyObject.digit).map fun digits => digits.foldl (fun n d => 16 * n + d.val) 0
  valueOf _ := ""
  toBoolean v := match v with
    | .bool b => some b
    | _ => none
  decodeText bs := (Json.readUtf8 bs).getD ""
  parseArray

def account (parseArray : String → Option (List Json)) : Account where
  C := .transparent
  O := emptyObject
  K := kotlin parseArray
  seed := bobSeed
  localNodeIdHex := bob.userIdHex
  firstEnded ids := ids.headD ""

theorem decodeText_utf8 (parseArray : String → Option (List Json)) (text : String) :
    (account parseArray).K.decodeText (utf8 text) = text := by
  change (Json.readUtf8 (utf8 text)).getD "" = text
  rw [Json.readUtf8_utf8, Option.getD_some]

theorem lowercase_hex (bs : Bytes) : lowercase (hexString bs) = hexString bs := by
  have hdigits : ∀ b : UInt8, (hexDigit (b >>> 4)).toLower = hexDigit (b >>> 4) ∧
      (hexDigit (b &&& 15)).toLower = hexDigit (b &&& 15) :=
    forall_uint8 (p := fun b => (hexDigit (b >>> 4)).toLower = hexDigit (b >>> 4) ∧
      (hexDigit (b &&& 15)).toLower = hexDigit (b &&& 15)) (by decide +kernel)
  unfold lowercase hexString
  rw [String.toList_ofList]
  refine congrArg String.ofList ?_
  induction bs with
  | nil => rfl
  | cons b bs ih =>
    obtain ⟨hhigh, hlow⟩ := hdigits b
    rw [List.flatMap_cons, List.map_append, ih]
    simp only [List.map_cons, List.map_nil, hhigh, hlow]

theorem clean_hex (parseArray : String → Option (List Json)) (bs : Bytes) :
    clean (kotlin parseArray) (hexString bs) = hexString bs := by
  unfold clean
  rw [kotlinTrim_hexString]
  exact lowercase_hex bs

end BobsPhone

end NodeX.Android
