/-
Author integrity of the message store: which steps of the inbox change what somebody else wrote.
Receipts and reactions touch marks only, edits and tombstones check the author; the one way past
the author is a new message whose id names another sender's message.
-/
import NodeX.Messenger.Inbox

namespace NodeX.Messenger

open NodeX.Lib

variable {C : Crypto} (J : PayloadJson) (T : PresenceText) {me : UserIdentity C}

/-! ## Content -/

/-- What the author wrote: everything but the reactions and the delivery mark. -/
def SavedChatMessage.content (m : SavedChatMessage) : SavedChatMessage := { m with reactions := [], delivered := false }

namespace SavedChatMessage

variable (m : SavedChatMessage)

@[simp] theorem content_markDelivered : m.markDelivered.content = m.content := rfl

@[simp] theorem content_addReaction (emoji reactor : String) :
    (m.addReaction emoji reactor).content = m.content := rfl

theorem senderIdHex_of_content {m m' : SavedChatMessage} (h : m'.content = m.content) :
    m'.senderIdHex = m.senderIdHex := by
  have h' : m'.content.senderIdHex = m.content.senderIdHex := by rw [h]
  exact h'

end SavedChatMessage

/-- The message under `k` is there with the same content. -/
def Keeps (db : MessengerDb) (k : String) (m : SavedChatMessage) : Prop :=
  ∃ m', db.message? k = some m' ∧ m'.content = m.content

theorem Keeps.of_eq {db : MessengerDb} {k : String} {m : SavedChatMessage} (h : db.message? k = some m) :
    Keeps db k m := ⟨m, h, rfl⟩

/-! ## The branches -/

/-- The envelope stores a new message over one that another user sent. -/
def Overwrites (db : MessengerDb) (v : Verified me) : Prop :=
  let msg := chatMessage me v.envelope (v.payload J)
  branch J me v.envelope (v.payload J) = .newMessage ∧ db.isTombstoned v.senderHex msg.id = false ∧
    (db.message? msg.id).any (fun m => m.senderIdHex ≠ v.senderHex)

instance (db : MessengerDb) (v : Verified me) : Decidable (Overwrites J db v) :=
  inferInstanceAs (Decidable (_ ∧ _ ∧ _))

section Branches

variable {db : MessengerDb} {k : String} {m : SavedChatMessage}

theorem keeps_handleDeliveryReceipt (h : db.message? k = some m) (sender : String) (r : DeliveryReceipt) :
    Keeps (handleDeliveryReceipt db sender r).db k m := by
  unfold handleDeliveryReceipt
  split
  · by_cases hk : r.messageId = k
    · exact ⟨m.markDelivered, by simp [db.message?_markMessageDelivered, hk, h], m.content_markDelivered⟩
    · exact Keeps.of_eq (by simp [db.message?_markMessageDelivered, hk, h])
  · exact Keeps.of_eq h

theorem keeps_handleReaction (h : db.message? k = some m) (sender : String) (r : MessageReaction) :
    Keeps (handleReaction db sender r).db k m := by
  unfold handleReaction
  split
  · by_cases hk : r.messageId = k
    · exact ⟨m.addReaction r.emoji sender, by simp [db.message?_addReaction, hk, h], m.content_addReaction _ _⟩
    · exact Keeps.of_eq (by simp [db.message?_addReaction, hk, h])
  · exact Keeps.of_eq h

theorem keeps_handleTombstone (h : db.message? k = some m) {sender : String} (hs : m.senderIdHex ≠ sender)
    (ids : List String) : Keeps (handleTombstone db sender ids).db k m := by
  refine Keeps.of_eq ?_
  change (db.deleteMessagesByAuthor ids sender).1.message? k = some m
  rw [db.message?_deleteMessagesByAuthor, h]
  simp [Option.filter, hs]

theorem keeps_handleEdit (h : db.message? k = some m) {sender : String} (hs : m.senderIdHex ≠ sender)
    (p : ChatMessagePayload) (now : Nat) : Keeps (handleEdit db sender p now).db k m := by
  refine Keeps.of_eq ?_
  rw [db_handleEdit, db.message?_editMessageByAuthor, h]
  simp [hs]

/-- Handling keeps what another user wrote, but for a new message under its id. -/
theorem keeps_handlePayload (dht : Dht) (v : Verified me) (now : Nat) (h : db.message? k = some m)
    (hs : m.senderIdHex ≠ v.senderHex) (hov : ¬ Overwrites J db v) :
    Keeps (handlePayload J T me dht db v now).db k m := by
  unfold handlePayload
  cases hb : branch J me v.envelope (v.payload J) with
  | deliveryReceipt r => exact keeps_handleDeliveryReceipt h _ r
  | readReceipt => exact Keeps.of_eq h
  | tombstone ids => exact keeps_handleTombstone h hs ids
  | callSignal signal => exact Keeps.of_eq ((congrArg (·.message? k) (db_handleCallSignal ..)).trans h)
  | callAudio chunk => exact Keeps.of_eq ((congrArg (·.message? k) (db_handleCallAudio ..)).trans h)
  | reaction r => exact keeps_handleReaction h _ r
  | edit => exact keeps_handleEdit h hs _ now
  | newMessage =>
    refine Keeps.of_eq ((message?_handleNewMessage T dht db v.envelope (v.payload J) k).trans ?_)
    rw [if_neg, h]
    rintro ⟨rfl, ht⟩
    exact hov ⟨hb, ht, (Option.any_eq_true _ _).2 ⟨m, h, by simpa using hs⟩⟩

/-- A new message over another user's leaves nothing of it. -/
theorem not_keeps_of_overwrites (dht : Dht) (v : Verified me) (now : Nat) (hov : Overwrites J db v) :
    ∃ k m, db.message? k = some m ∧ m.senderIdHex ≠ v.senderHex ∧
      ¬ Keeps (handlePayload J T me dht db v now).db k m := by
  obtain ⟨hb, ht, hany⟩ := hov
  obtain ⟨m, hm, hs⟩ := (Option.any_eq_true _ _).1 hany
  replace hs : m.senderIdHex ≠ v.senderHex := by simpa using hs
  refine ⟨_, m, hm, hs, ?_⟩
  rintro ⟨m', hm', hc⟩
  rw [handlePayload, hb, handleBranch, message?_handleNewMessage, if_pos ⟨rfl, ht⟩] at hm'
  cases hm'
  exact hs (SavedChatMessage.senderIdHex_of_content hc).symm

end Branches

/-! ## Runs -/

namespace Inbox

/-- In this step, every stored message is kept, or the local user acts, or an envelope is handled that
was opened as its author's. -/
def AuthorKept (s : Inbox me) (a : InboxAction) : Prop :=
  ∀ k m, s.db.message? k = some m → Keeps (s.step J T a).db k m ∨ (∃ op, a = .localOp op) ∨
    ∃ v ∈ s.admitted, ∃ now dht, a = .handle v.envelope now dht ∧ v.senderHex = m.senderIdHex

/-- The step does not handle a new message under the id of a message that another user sent. -/
def FreshOrOwnId (s : Inbox me) : InboxAction → Prop
  | .handle e _ _ => ∀ v, s.admitted.find? (·.envelope = e) = some v → ¬ Overwrites J s.db v
  | _ => True

theorem authorKept_iff (s : Inbox me) (a : InboxAction) : s.AuthorKept J T a ↔ s.FreshOrOwnId J a := by
  cases a with
  | receive e now =>
    refine ⟨fun _ => trivial, fun _ k m hm => .inl (Keeps.of_eq ?_)⟩
    rw [db_step_receive, hm]
  | localOp op => exact ⟨fun _ => trivial, fun _ _ _ _ => .inr (.inl ⟨op, rfl⟩)⟩
  | handle e now dht =>
    cases hf : s.admitted.find? (·.envelope = e) with
    | none =>
      refine ⟨fun _ v hv => (by cases hf.symm.trans hv), fun _ k m hm => .inl (Keeps.of_eq ?_)⟩
      simp only [step, hf, hm]
    | some v =>
      have hv : v.envelope = e := by simpa using List.find?_some hf
      have hmem : v ∈ s.admitted := List.mem_of_find?_eq_some hf
      have hstep : (s.step J T (.handle e now dht)).db = (handlePayload J T me dht s.db v now).db := by
        simp only [step, hf]
      constructor
      · intro hkept v' hv' hov
        cases hf.symm.trans hv'
        -- the message that is overwritten is one the step may not touch
        obtain ⟨k, m, hm, hs, hlost⟩ := not_keeps_of_overwrites J T dht v now hov
        rcases hkept k m hm with hk | ⟨op, hop⟩ | ⟨w, -, now', dht', heq, hw⟩
        · rw [hstep] at hk
          exact hlost hk
        · cases hop
        · injection heq with heq
          refine hs (hw.symm.trans ?_)
          unfold Verified.senderHex
          rw [← heq, hv]
      · intro hfresh k m hm
        by_cases hs : m.senderIdHex = v.senderHex
        · exact .inr (.inr ⟨v, hmem, now, dht, by rw [hv], hs.symm⟩)
        · rw [hstep]
          exact .inl (keeps_handlePayload J T dht v now hm hs (hfresh v hf))

/-- Over any run, from any database: what an author wrote is changed, replaced or removed only by an
envelope opened as the author's or by the local user, exactly when no new message arrives under the
id of a message that another user sent. -/
theorem run_authorKept_iff (s : Inbox me) (as : List InboxAction) :
    Steps (step J T) (AuthorKept J T) s as ↔ Steps (step J T) (FreshOrOwnId J) s as :=
  steps_congr (authorKept_iff J T) s as

end Inbox

/-! ## A message under somebody else's id -/

namespace SameId

open NodeX.Sample

/-- JSON as far as two messages with one id go. -/
def payloadJson : PayloadJson where
  print _ := []
  parse bs :=
    if bs = utf8 "\x7b\"id\":\"m1\",\"text\":\"Meet at 9\"\x7d" then some { id := "m1", text := "Meet at 9" }
    else if bs = utf8 "\x7b\"id\":\"m1\",\"text\":\"Forget it\"\x7d" then some { id := "m1", text := "Forget it" }
    else none
  printTombstone _ := []
  utf8Lossy _ := ""

def presenceText : PresenceText where
  parseCard _ := .error "expected value at line 1 column 1"
  printSigned _ := []
  showAddr _ := ""
  parseAddr _ := none
  signatureError := "signature error"

def fromAlice : EncryptedEnvelope := encryptEnvelope .transparent alice bob.userId bob.x25519Public
  (utf8 "\x7b\"id\":\"m1\",\"text\":\"Meet at 9\"\x7d") (List.replicate 32 1) (List.replicate 12 1) 1700000000

def fromMallory : EncryptedEnvelope := encryptEnvelope .transparent mallory bob.userId bob.x25519Public
  (utf8 "\x7b\"id\":\"m1\",\"text\":\"Forget it\"\x7d") (List.replicate 32 2) (List.replicate 12 2) 1700000001

def noDht : Dht := fun _ => .ok none

def actions : List InboxAction :=
  [.receive fromAlice 1700000005, .handle fromAlice 1700000005 noDht, .receive fromMallory 1700000006,
    .handle fromMallory 1700000006 noDht]

def after (n : Nat) : Inbox bob := run (Inbox.step payloadJson presenceText) {} (actions.take n)

/-- Who is the author of m1, and what it says. -/
def m1 (s : Inbox bob) : Option (String × String) := (s.db.message? "m1").map fun m => (m.senderIdHex, m.text)

end SameId

open SameId NodeX.Sample in
/-- Alice's message is there, and once Mallory's with the same id is handled it is Mallory's. -/
theorem run_authorKept_sameId : m1 (after 2) = some (alice.userIdHex, "Meet at 9") ∧
    m1 (after 4) = some (mallory.userIdHex, "Forget it") ∧
    ¬ Steps (Inbox.step payloadJson presenceText) (Inbox.AuthorKept payloadJson presenceText) ({} : Inbox bob)
      actions := by
  obtain ⟨h2, h3, h4, hne⟩ : m1 (after 2) = some (alice.userIdHex, "Meet at 9") ∧
      m1 (after 3) = some (alice.userIdHex, "Meet at 9") ∧ m1 (after 4) = some (mallory.userIdHex, "Forget it") ∧
      mallory.userIdHex ≠ alice.userIdHex := by
    decide +kernel
  refine ⟨h2, h4, fun h => ?_⟩
  obtain ⟨m, hm, hmeq⟩ := Option.map_eq_some_iff.1 h3
  obtain ⟨m', hm', hmeq'⟩ := Option.map_eq_some_iff.1 h4
  have hsender : m.senderIdHex = alice.userIdHex := congrArg Prod.fst hmeq
  have hsender' : m'.senderIdHex = mallory.userIdHex := congrArg Prod.fst hmeq'
  -- the last action is the one that goes wrong
  have hafter : after 4 = (after 3).step payloadJson presenceText (.handle fromMallory 1700000006 noDht) :=
    run_concat _ _ (actions.take 3) _
  have hlast := ((steps_concat _ _ _ (actions.take 3) (.handle fromMallory 1700000006 noDht)).1 h).2
  rcases hlast "m1" m hm with ⟨m'', hm'', hc⟩ | ⟨op, hop⟩ | ⟨v, -, now, dht, heq, hv⟩
  · cases (hafter ▸ hm').symm.trans hm''
    exact hne (hsender'.symm.trans ((SavedChatMessage.senderIdHex_of_content hc).trans hsender))
  · cases hop
  · injection heq with heq
    have hv' : v.senderHex = mallory.userIdHex := by
      unfold Verified.senderHex
      rw [← heq]
      rfl
    exact hne (hv'.symm.trans (hv.trans hsender))

end NodeX.Messenger
