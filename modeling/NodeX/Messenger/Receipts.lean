/-
What the signature of a receipt fixes. The signed bytes of the two kinds start with different tags, but neither holds
who the receipt is from, and the ids of a read receipt are put together without anything between them.
-/
import NodeX.Messenger.Types
import NodeX.Messenger.Tamper

namespace NodeX.Messenger

/-! ## The signed bytes -/

/-- A body that ends in a timestamp. -/
theorem concat_beBytes_inj {bs bs' : Bytes} {ts ts' : UInt64} :
    bs ++ beBytes ts = bs' ++ beBytes ts' ↔ bs = bs' ∧ ts = ts' := by
  constructor
  · intro h
    obtain ⟨hbody, hts⟩ := List.append_inj' h rfl
    exact ⟨hbody, beBytes_inj hts⟩
  · rintro ⟨rfl, rfl⟩
    rfl

theorem append_beBytes_inj {tag bs bs' : Bytes} {ts ts' : UInt64} :
    tag ++ bs ++ beBytes ts = tag ++ bs' ++ beBytes ts' ↔ bs = bs' ∧ ts = ts' := by
  rw [concat_beBytes_inj, List.append_right_inj]

/-- Texts put together are the same texts if their lengths are the same, one by one. -/
theorem flatMap_utf8_inj : ∀ {ids ids' : List String},
    ids.map (fun id => (utf8 id).length) = ids'.map (fun id => (utf8 id).length) →
      ids.flatMap utf8 = ids'.flatMap utf8 → ids = ids'
  | [], [], _, _ => rfl
  | id :: ids, id' :: ids', hlen, h => by
    obtain ⟨hhead, htail⟩ := List.cons.inj hlen
    obtain ⟨hid, hrest⟩ := List.append_inj h hhead
    rw [utf8_inj.1 hid, flatMap_utf8_inj htail hrest]

/-! ## Receipts -/

variable (C : Crypto) (key : Bytes)

/-- What a key verifies, one signature at a time: one delivery receipt, one read receipt, and not one of each. -/
structure ReceiptsUnambiguous : Prop where
  delivery : ∀ r r' : DeliveryReceipt, r.verify C key = true → r'.verify C key = true →
    r.signature = r'.signature → r = r'
  read : ∀ r r' : ReadReceipt, r.verify C key = true → r'.verify C key = true → r.signature = r'.signature → r = r'
  apart : ∀ (r : DeliveryReceipt) (r' : ReadReceipt), r.verify C key = true → r'.verify C key = true →
    r.signature ≠ r'.signature

/-- Where a signature fixes the message, two delivery receipts with one signature are equal exactly if they name one
recipient, and two read receipts exactly if they name one reader and their ids have the same lengths, one by one. No
signature stands for one of each kind. -/
theorem receipts_eq_iff (hideal : ∀ sig m m', C.edVerify key m sig = true → C.edVerify key m' sig = true → m = m') :
    (∀ r r' : DeliveryReceipt, r.verify C key = true → r'.verify C key = true → r.signature = r'.signature →
      (r = r' ↔ r.recipientId = r'.recipientId)) ∧
    (∀ r r' : ReadReceipt, r.verify C key = true → r'.verify C key = true → r.signature = r'.signature →
      (r = r' ↔ r.readerId = r'.readerId ∧
        r.messageIds.map (fun id => (utf8 id).length) = r'.messageIds.map (fun id => (utf8 id).length))) ∧
    ∀ (r : DeliveryReceipt) (r' : ReadReceipt), r.verify C key = true → r'.verify C key = true →
      r.signature ≠ r'.signature := by
  refine ⟨?_, ?_, ?_⟩
  · intro r r' h h' hsig
    constructor
    · rintro rfl
      rfl
    · intro hrecipient
      have hbytes := hideal r.signature _ _ (C.edVerify_of_verify h) (hsig ▸ C.edVerify_of_verify h')
      obtain ⟨hid, hts⟩ := append_beBytes_inj.1 hbytes
      have hid := utf8_inj.1 hid
      cases r
      cases r'
      simp_all
  · intro r r' h h' hsig
    constructor
    · rintro rfl
      exact ⟨rfl, rfl⟩
    · rintro ⟨hreader, hlengths⟩
      have hbytes := hideal r.signature _ _ (C.edVerify_of_verify h) (hsig ▸ C.edVerify_of_verify h')
      obtain ⟨hbody, hts⟩ := append_beBytes_inj.1 hbytes
      have hids := flatMap_utf8_inj hlengths hbody
      cases r
      cases r'
      simp_all
  · intro r r' h h' hsig
    have hbytes := hideal r.signature _ _ (C.edVerify_of_verify h) (hsig ▸ C.edVerify_of_verify h')
    have hdelivery : utf8 "DELIVERY_RECEIPT_V1" = 68 :: utf8 "ELIVERY_RECEIPT_V1" := by decide
    have hread : utf8 "READ_RECEIPT_V1" = 82 :: utf8 "EAD_RECEIPT_V1" := by decide
    rw [hdelivery, hread] at hbytes
    exact absurd (List.cons.inj hbytes).1 (by decide)

/-! ## One signature, several receipts -/

namespace Receipt

open NodeX.Sample

def delivered (recipientId : String) : DeliveryReceipt := ⟨"msg_12345", recipientId, 1700000000, sharedSignature⟩

def read (messageIds : List String) : ReadReceipt := ⟨messageIds, "bob", 1700000000, sharedSignature⟩

/-- The one signature that verifies is for a read receipt. -/
def readCrypto : Crypto := tableCrypto [(alice.verifyingKey,
  utf8 "READ_RECEIPT_V1" ++ utf8 "msg_1msg_2" ++ beBytes 1700000000, sharedSignature)]

/-- The one signature that verifies is for a delivery receipt. -/
def deliveryCrypto : Crypto := tableCrypto [(alice.verifyingKey,
  utf8 "DELIVERY_RECEIPT_V1" ++ utf8 "msg_12345" ++ beBytes 1700000000, sharedSignature)]

theorem tableCrypto_ideal (entry : Bytes × Bytes × Bytes) (key sig m m' : Bytes)
    (h : (tableCrypto [entry]).edVerify key m sig = true) (h' : (tableCrypto [entry]).edVerify key m' sig = true) :
    m = m' := by
  simp only [tableCrypto, List.contains_eq_mem, List.mem_singleton, decide_eq_true_eq] at h h'
  rw [← h'] at h
  simpa using h

end Receipt

open Receipt NodeX.Sample in
/-- The ids of a read receipt can be cut elsewhere, and the recipient of a delivery receipt replaced. -/
theorem receiptsUnambiguous_not :
    (¬∀ (C : Crypto) (key : Bytes), (∀ sig m m', C.edVerify key m sig = true → C.edVerify key m' sig = true → m = m') →
      ReceiptsUnambiguous C key) ∧
    read ["msg_1", "msg_2"] ≠ read ["msg_1msg_2"] ∧ (read ["msg_1", "msg_2"]).verify readCrypto alice.verifyingKey ∧
    (read ["msg_1msg_2"]).verify readCrypto alice.verifyingKey := by
  refine ⟨?_, by decide, by decide +kernel, by decide +kernel⟩
  intro h
  have heq := (h deliveryCrypto alice.verifyingKey (fun sig m m' => tableCrypto_ideal _ _ sig m m')).delivery
    (delivered "bob") (delivered "carol") (by decide +kernel) (by decide +kernel) rfl
  exact absurd heq (by decide)

open Receipt NodeX.Sample in
/-- Two copies of one read receipt. -/
theorem receipts_eq_iff_read : read ["msg_1", "msg_2"] = read ["msg_1", "msg_2"] ↔
    "bob" = "bob" ∧ ["msg_1", "msg_2"].map (fun id => (utf8 id).length) =
      ["msg_1", "msg_2"].map fun id => (utf8 id).length :=
  (receipts_eq_iff readCrypto alice.verifyingKey fun sig m m' => tableCrypto_ideal _ _ sig m m').2.1
    (read ["msg_1", "msg_2"]) (read ["msg_1", "msg_2"]) (by decide +kernel) (by decide +kernel) rfl

end NodeX.Messenger
