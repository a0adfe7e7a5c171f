/-
The action `DeleteEveryone` of the chat view. It starts two tasks, `delete_message` and `delete_messages_for_everyone`,
which take the database's lock in either order; the second tells the recipient of what it still finds.
-/
import NodeX.Messenger.Retraction

namespace NodeX.Gui

open NodeX.Lib Messenger

/-! ## The two tasks -/

/-- How far `delete_messages_for_everyone` has come: before it deletes, before it looks for a key, with a key, and at
its end. -/
inductive EveryoneTask where
  | start (recipientIdHex : String) (messageIds : List String)
  | deleted (recipientIdHex : String) (deletedIds : List String)
  | keyed (recipientIdHex : String) (recipientId : NodeId) (deletedIds : List String) (key : Bytes)
      (directAddr : Option SocketAddr)
  | ended
deriving DecidableEq

/-- The database, the id that `delete_message` is still to delete, the other task, and what was handed on. -/
structure Tasks where
  db : MessengerDb
  here : Option String
  everyone : EveryoneTask
  handed : List HandedTombstone := []

/-- What the action starts, in the conversation that is shown. -/
def Tasks.spawn (db : MessengerDb) (activeTargetId : Option String) (isSavedMessages : Bool) (msgId : String) : Tasks :=
  { db
    here := some msgId
    everyone := match activeTargetId with
      | some target => if isSavedMessages then .ended else .start target [msgId]
      | none => .ended }

/-- Which task takes its next step. -/
inductive Turn where
  | here
  | everyone
deriving DecidableEq

section Model

variable {C : Crypto} (T : PresenceText) (J : PayloadJson) (me : UserIdentity C) (dht : Dht) (now : UInt64)
  (ephSeed nonce : Bytes) (timestamp : UInt64)

namespace Tasks

def stepHere (s : Tasks) : Tasks :=
  match s.here with
  | some id => { s with db := s.db.deleteMessage id, here := none }
  | none => s

/-- From one `await` to the next: the lock is held while messages are deleted. -/
def stepEveryone (s : Tasks) : Tasks :=
  match s.everyone with
  | .start target ids =>
    if ids.isEmpty then { s with everyone := .ended }
    else
      match s.db.deleteMessagesByAuthor ids me.userIdHex with
      | (db, deletedIds) =>
        { s with db, everyone := if deletedIds.isEmpty then .ended else .deleted target deletedIds }
  | .deleted target deletedIds =>
    match NodeId.fromHex target with
    | .ok recipientId =>
      match retractionKey (C := C) T dht s.db target with
      | .ok (db, key, directAddr) => { s with db, everyone := .keyed target recipientId deletedIds key directAddr }
      | _ => { s with everyone := .ended }
    | _ => { s with everyone := .ended }
  | .keyed target recipientId deletedIds key directAddr =>
    if key.length = 32 then
      { s with
        everyone := .ended
        handed := s.handed ++
          [{ tombstone := signedTombstone J me target deletedIds now
             recipientId, key, directAddr, ephSeed, nonce, timestamp }] }
    else { s with everyone := .ended }
  | .ended => s

def step (s : Tasks) : Turn → Tasks
  | .here => s.stepHere
  | .everyone => s.stepEveryone T J me dht now ephSeed nonce timestamp

/-- By itself the task is the call. -/
theorem run_everyone (db : MessengerDb) (target : String) (ids : List String) (here : Option String) :
    let s := run (step T J me dht now ephSeed nonce timestamp) ⟨db, here, .start target ids, []⟩
      [.everyone, .everyone, .everyone]
    s.db = (deleteMessagesForEveryone T J me dht db target ids now ephSeed nonce timestamp).db ∧
      s.handed = (deleteMessagesForEveryone T J me dht db target ids now ephSeed nonce timestamp).handed.toList ∧
      s.everyone = .ended := by
  simp only [run_cons, run_nil, step]
  unfold deleteMessagesForEveryone
  cases hids : ids.isEmpty with
  | true => simp [stepEveryone, hids]
  | false =>
    rcases hdeleted : db.deleteMessagesByAuthor ids me.userIdHex with ⟨db', deletedIds⟩
    cases hnone : deletedIds.isEmpty with
    | true => simp [stepEveryone, hids, hdeleted, hnone]
    | false =>
      have hfirst : stepEveryone T J me dht now ephSeed nonce timestamp ⟨db, here, .start target ids, []⟩ =
          ⟨db', here, .deleted target deletedIds, []⟩ := by
        simp [stepEveryone, hids, hdeleted, hnone]
      rw [hfirst]
      simp only [hnone, Bool.false_eq_true, if_false]
      unfold deliverTombstone
      cases hid : NodeId.fromHex target with
      | err e => simp [stepEveryone, hid]
      | panic => simp [stepEveryone, hid]
      | ok recipientId =>
        cases hkey : retractionKey (C := C) T dht db' target with
        | err e => simp [stepEveryone, hid, hkey]
        | panic => simp [stepEveryone, hid, hkey]
        | ok found =>
          obtain ⟨db'', key, directAddr⟩ := found
          have hsecond :
              stepEveryone T J me dht now ephSeed nonce timestamp ⟨db', here, .deleted target deletedIds, []⟩ =
              ⟨db'', here, .keyed target recipientId deletedIds key directAddr, []⟩ := by
            simp [stepEveryone, hid, hkey]
          rw [hsecond]
          by_cases hlength : key.length = 32 <;> simp [stepEveryone, hlength]

end Tasks

/-! ## The recipient is told -/

/-- A contact whose id is one and whose saved key has 32 bytes. -/
structure KnownRecipient (db : MessengerDb) (target : String) (recipientId : NodeId) (key : Bytes) : Prop where
  isId : NodeId.fromHex target = .ok recipientId
  contact : ∃ c, db.contacts.lookup target = some c ∧ hexDecode c.x25519PubHex = .ok (some key)
  length : key.length = 32

/-- A tombstone that names the message, signed, on its way to the recipient under this key. -/
def IsTold (J : PayloadJson) (me : UserIdentity C) (target : String) (recipientId : NodeId) (key : Bytes)
    (msgId : String) (h : HandedTombstone) : Prop :=
  h.recipientId = recipientId ∧ h.key = key ∧ h.tombstone.recipientId = target ∧ msgId ∈ h.tombstone.deletedIds ∧
    h.tombstone.signature = me.sign (h.tombstone.signingBytes J)

variable {T J me dht now ephSeed nonce timestamp} {db : MessengerDb} {target msgId : String} {recipientId : NodeId}
  {key : Bytes}

theorem contacts_deleteMessage (db : MessengerDb) (id : String) : (db.deleteMessage id).contacts = db.contacts := rfl

theorem KnownRecipient.congr {db' : MessengerDb} (h : KnownRecipient db target recipientId key)
    (hsame : db'.contacts = db.contacts) : KnownRecipient db' target recipientId key :=
  ⟨h.isId, hsame ▸ h.contact, h.length⟩

theorem KnownRecipient.retractionKey (h : KnownRecipient db target recipientId key) :
    ∃ addr, retractionKey (C := C) T dht db target = .ok (db, key, addr) := by
  obtain ⟨c, hc, hd⟩ := h.contact
  refine ⟨T.parseAddr c.lastSeenAddr, ?_⟩
  unfold Messenger.retractionKey
  rw [hc]
  dsimp only
  rw [hd]
  exact congrArg Outcome.ok (if_pos h.length)

/-- The message is deleted by the task that tells the recipient: it is going to be told, or it has been. -/
def Telling (J : PayloadJson) (me : UserIdentity C) (target : String) (recipientId : NodeId) (key : Bytes)
    (msgId : String) (s : Tasks) : Prop :=
  s.everyone = .deleted target [msgId] ∧ KnownRecipient s.db target recipientId key ∨
    (∃ addr, s.everyone = .keyed target recipientId [msgId] key addr ∧ key.length = 32) ∨
      s.everyone = .ended ∧ ∃ h ∈ s.handed, IsTold J me target recipientId key msgId h

/-- The message is gone before the task finds it. -/
def Untold (target msgId : String) (s : Tasks) : Prop :=
  s.handed = [] ∧ (s.everyone = .ended ∨ s.everyone = .start target [msgId] ∧ s.db.message? msgId = none)

theorem Telling.step {s : Tasks} (h : Telling J me target recipientId key msgId s) (turn : Turn) :
    Telling J me target recipientId key msgId (s.step T J me dht now ephSeed nonce timestamp turn) := by
  cases turn with
  | here =>
    change Telling J me target recipientId key msgId s.stepHere
    unfold Tasks.stepHere
    cases s.here with
    | none => exact h
    | some id => exact h.imp (fun h => ⟨h.1, h.2.congr (contacts_deleteMessage s.db id)⟩) fun h => h
  | everyone =>
    change Telling J me target recipientId key msgId (s.stepEveryone T J me dht now ephSeed nonce timestamp)
    unfold Tasks.stepEveryone
    rcases h with ⟨hstage, hknown⟩ | ⟨addr, hstage, hlength⟩ | ⟨hstage, htold⟩
    · obtain ⟨addr, hkey⟩ : ∃ addr, retractionKey T dht s.db target = .ok (s.db, key, addr) :=
        hknown.retractionKey
      rw [hstage]
      dsimp only
      rw [hknown.isId, hkey]
      exact .inr (.inl ⟨addr, rfl, hknown.length⟩)
    · rw [hstage]
      dsimp only
      rw [if_pos hlength]
      exact .inr (.inr ⟨rfl, _, List.mem_append_right _ (List.mem_singleton_self _), rfl, rfl, rfl,
        List.mem_singleton_self _, rfl⟩)
    · rw [hstage]
      exact .inr (.inr ⟨hstage, htold⟩)

theorem Untold.step {s : Tasks} (h : Untold target msgId s) (turn : Turn) :
    Untold target msgId (s.step T J me dht now ephSeed nonce timestamp turn) := by
  obtain ⟨hhanded, hstage⟩ := h
  cases turn with
  | here =>
    change Untold target msgId s.stepHere
    unfold Tasks.stepHere
    cases s.here with
    | none => exact ⟨hhanded, hstage⟩
    | some id =>
      refine ⟨hhanded, hstage.imp_right fun h => ⟨h.1, ?_⟩⟩
      change (s.db.deleteMessage id).message? msgId = none
      rw [MessengerDb.message?_deleteMessage, h.2]
      split <;> rfl
  | everyone =>
    change Untold target msgId (s.stepEveryone T J me dht now ephSeed nonce timestamp)
    unfold Tasks.stepEveryone
    rcases hstage with hstage | ⟨hstage, hgone⟩
    · rw [hstage]
      exact ⟨hhanded, .inl hstage⟩
    · have hnone : (s.db.deleteMessagesByAuthor [msgId] me.userIdHex).2 = [] := by
        rw [List.eq_nil_iff_forall_not_mem]
        intro id hid
        obtain ⟨hmem, m, hm, -⟩ := (mem_deleteMessagesByAuthor s.db [msgId] me.userIdHex id).1 hid
        rw [List.mem_singleton.1 hmem, hgone] at hm
        cases hm
      rw [hstage]
      dsimp only [List.isEmpty_cons, Bool.false_eq_true]
      rw [if_neg (by simp), hnone]
      exact ⟨hhanded, .inl rfl⟩

theorem Telling.after {s : Tasks} (h : Telling J me target recipientId key msgId s) (turns : List Turn) :
    Telling J me target recipientId key msgId (run (Tasks.step T J me dht now ephSeed nonce timestamp) s turns) :=
  run_induction (I := Telling J me target recipientId key msgId) (fun _ turn h => h.step turn) turns h

theorem Untold.after {s : Tasks} (h : Untold target msgId s) (turns : List Turn) :
    Untold target msgId (run (Tasks.step T J me dht now ephSeed nonce timestamp) s turns) :=
  run_induction (I := Untold target msgId) (fun _ turn h => h.step turn) turns h

/-- Once the tasks have ended, the recipient of an own message is told exactly if the task that tells it took the lock
first. -/
theorem deleteEveryone_told_iff {m : SavedChatMessage} (hm : db.message? msgId = some m)
    (hmine : m.senderIdHex = me.userIdHex) (hknown : KnownRecipient db target recipientId key) {turns : List Turn}
    (hends : (run (Tasks.step T J me dht now ephSeed nonce timestamp) (.spawn db (some target) false msgId)
      turns).everyone = .ended) :
    (∃ h ∈ (run (Tasks.step T J me dht now ephSeed nonce timestamp) (.spawn db (some target) false msgId) turns).handed,
      IsTold J me target recipientId key msgId h) ↔ turns.head? = some .everyone := by
  cases turns with
  | nil => cases hends
  | cons turn turns =>
    rw [run_cons] at hends ⊢
    cases turn with
    | everyone =>
      have hdeleted : (db.deleteMessagesByAuthor [msgId] me.userIdHex).2 = [msgId] := by
        have hone : (db.deleteByAuthor msgId me.userIdHex).2 = [msgId] := by
          unfold MessengerDb.deleteByAuthor
          rw [hm]
          dsimp only
          rw [if_pos hmine]
        exact congrArg (· ++ []) hone
      have hfirst : Telling J me target recipientId key msgId (Tasks.step T J me dht now ephSeed nonce timestamp
          (.spawn db (some target) false msgId) .everyone) := by
        refine .inl ⟨?_, hknown.congr (contacts_deleteMessagesByAuthor db [msgId] me.userIdHex)⟩
        change (if (db.deleteMessagesByAuthor [msgId] me.userIdHex).2.isEmpty then EveryoneTask.ended
          else .deleted target (db.deleteMessagesByAuthor [msgId] me.userIdHex).2) = _
        rw [hdeleted]
        rfl
      have hlast : Telling J me target recipientId key msgId (run (Tasks.step T J me dht now ephSeed nonce timestamp) _
          turns) := hfirst.after turns
      refine ⟨fun _ => rfl, fun _ => ?_⟩
      rcases hlast with ⟨hstage, -⟩ | ⟨addr, hstage, -⟩ | ⟨-, htold⟩
      · cases hstage.symm.trans hends
      · cases hstage.symm.trans hends
      · exact htold
    | here =>
      have hfirst : Untold target msgId (Tasks.step T J me dht now ephSeed nonce timestamp
          (.spawn db (some target) false msgId) .here) := by
        refine ⟨rfl, .inr ⟨rfl, ?_⟩⟩
        change (db.deleteMessage msgId).message? msgId = none
        rw [MessengerDb.message?_deleteMessage, if_pos rfl]
      have hlast : Untold target msgId (run (Tasks.step T J me dht now ephSeed nonce timestamp) _ turns) :=
        hfirst.after turns
      constructor
      · rintro ⟨h, hh, -⟩
        rw [hlast.1] at hh
        cases hh
      · intro h
        cases h

end Model

/-! ## The lock is taken for the local task first -/

namespace SecretToBob

open NodeX.Sample Messenger.SavedMessages

/-- A message of Alice's to Bob, whose key she has. -/
def secret : SavedChatMessage :=
  { id := "m1", senderIdHex := alice.userIdHex, recipientIdHex := bob.userIdHex, text := "Secret"
    timestamp := 1700000000, incoming := false, delivered := true }

def contactBob : SavedContact :=
  { userIdHex := bob.userIdHex, name := "Bob", bio := "", ed25519PubHex := ""
    x25519PubHex := hexString bob.x25519Public, lastSeenAddr := "" }

def secretDb : MessengerDb := ((MessengerDb.addMessage {} secret).addContact contactBob)

def told (turns : List Turn) : Tasks :=
  run (Tasks.step presenceText payloadJson alice (fun _ => .ok none) 1700000060 (List.replicate 32 1)
    (List.replicate 12 1) 1700000060) (.spawn secretDb (some bob.userIdHex) false "m1") turns

theorem message?_secretDb : secretDb.message? "m1" = some secret := by decide +kernel

theorem knownRecipient_bob : KnownRecipient secretDb bob.userIdHex bob.userId bob.x25519Public where
  isId := by decide +kernel
  contact := ⟨contactBob, by decide +kernel, by decide +kernel⟩
  length := by decide

end SecretToBob

open SecretToBob NodeX.Sample Messenger.SavedMessages

theorem deleteEveryone_told_first :
    ∃ h ∈ (told [.everyone, .here, .everyone, .everyone]).handed,
      IsTold payloadJson alice bob.userIdHex bob.userId bob.x25519Public "m1" h :=
  (deleteEveryone_told_iff message?_secretDb rfl knownRecipient_bob (by decide +kernel)).2 rfl

/-- `delete_message` runs first, and Bob is told nothing. -/
theorem deleteEveryone_not_told :
    secretDb.message? "m1" = some secret ∧ secret.senderIdHex = alice.userIdHex ∧
      KnownRecipient secretDb bob.userIdHex bob.userId bob.x25519Public ∧
      (told [.here, .everyone, .everyone, .everyone]).here = none ∧
      (told [.here, .everyone, .everyone, .everyone]).everyone = .ended ∧
      ¬∃ h ∈ (told [.here, .everyone, .everyone, .everyone]).handed,
        IsTold payloadJson alice bob.userIdHex bob.userId bob.x25519Public "m1" h := by
  have hnone : (told [.here, .everyone, .everyone, .everyone]).handed = [] := by decide
  refine ⟨message?_secretDb, rfl, knownRecipient_bob, by decide, by decide, ?_⟩
  rintro ⟨h, hh, -⟩
  rw [hnone] at hh
  cases hh

end NodeX.Gui
