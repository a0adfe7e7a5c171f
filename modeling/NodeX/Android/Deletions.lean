/-
Messages that were removed from the phone, and whether a delivery brings them back. Nothing records a removal: a chat
message is kept out by the ids that are remembered, of which there are few and which a start knows only from what is
still stored, and a manifest by nothing.
-/
import NodeX.Android.MessageStore
import NodeX.Android.Heard
import NodeX.Android.MailboxEntries

namespace NodeX.Android

open NodeX.Lib Messenger AndroidMessageCrypto

variable (P : Account)

/-! ## Sending -/

/-- The checks at the start of the engine's `sendMessage`. -/
def isSendable (s : Phone) (cleanText : String) : Bool :=
  !(decide (100 ≤ s.queue.pendingDeliveries.list.length) ||
      decide (8 * 1024 * 1024 - 64 * 1024 < packetBytes s.queue.pendingDeliveries.list)) &&
    !decide (40 * 1024 < (utf8 cleanText).length)

/-- `sendMessage` of the repository; `queued` is whether the engine takes a message that passes its checks. -/
def Phone.sendMessage (s : Phone) (contactId text id : String) (saves queued savesAgain : Bool) : Phone :=
  let cleanText := MnemonicHelper.kotlinTrim text
  if cleanText.isEmpty then s
  else
    let isSelf := P.K.sameIgnoringCase contactId P.localNodeIdHex
    let s := if (s.contact? P.K contactId).isNone then s.addContact P.O P.K contactId else s
    let msg : ChatMessage :=
      { id, senderIdHex := P.localNodeIdHex, text := cleanText, isIncoming := false, isDelivered := isSelf }
    if saves = false then s.saveMessages false
    else
      let s := ({ s with messages := s.messages.put contactId (s.conversation contactId ++ [msg]) } :
        Phone).saveMessages true
      if isSelf then s
      else if isSendable s cleanText = false then s.saveMessages savesAgain
      else if queued then s.markSeen id
      else (s.markSeen id).saveMessages savesAgain

/-! ## The phone and its file -/

/-- The phone, the messages in its file, and the conversations and ids of the messages that were removed. -/
structure Chats where
  phone : Phone := {}
  file : Option (KeyedMap String (List ChatMessage)) := none
  removed : List (String × String) := []

inductive ChatEvent where
  | delivery (payload : Json) (senderHex : String) (x : Surroundings)
  | sendMessage (contactId text id : String) (saves queued savesAgain : Bool)
  | clearMessages (contactId : String) (saves : Bool)
  | deleteContact (contactId : String) (saves : Bool)
  | restart (opens : Bool) (nowMs : Int)

/-- The conversations of a file up to the one that is not read. -/
def conversationsRead : List (String × Json) → List (String × List ChatMessage)
  | [] => []
  | e :: rest =>
    match conversationOf P none e with
    | .ok c => c :: conversationsRead rest
    | .error _ => []

/-- `markMessageIdSeen` -/
def markMessageIdSeen (ids : List String) (msgId : String) : List String :=
  if isBlank msgId then ids else (addSeen ids msgId).1

/-- The ids that a start remembers. -/
def idsRead (raw : Option Bytes) : List String :=
  match raw.bind P.O.parse with
  | some (.object fields) =>
    ((conversationsRead P fields).flatMap fun c => c.2.map (·.id)).foldl markMessageIdSeen []
  | _ => []

namespace Chats

/-- The phone after a step that wrote its messages, if they were changed and the file could be written. -/
def written (s : Chats) (phone : Phone) (saves : Bool) : Chats :=
  { s with phone, file := if phone.messages ≠ s.phone.messages ∧ saves then some phone.messages else s.file }

/-- What a removal takes out of a conversation. -/
def removing (s : Chats) (contactId : String) : List (String × String) :=
  (s.phone.heard contactId).map (contactId, ·) ++ s.removed

def clearMessages (s : Chats) (contactId : String) (saves : Bool) : Chats :=
  let phone := ({ s.phone with messages := s.phone.messages.put contactId [] } : Phone).saveMessages saves
  { phone, file := if saves then some phone.messages else s.file, removed := s.removing contactId }

def deleteContact (s : Chats) (contactId : String) (saves : Bool) : Chats :=
  let phone := ({ s.phone with
    contacts := s.phone.contacts.filter (·.userIdHex ≠ contactId)
    messages := s.phone.messages.erase contactId } : Phone).saveMessages saves
  { phone, file := if saves then some phone.messages else s.file, removed := s.removing contactId }

/-- A start of the app: the contacts, the messages, the calls that have ended and the queue come from their files. -/
def restart (s : Chats) (opens : Bool) (nowMs : Int) : Chats :=
  let raw := s.file.map fun messages => P.O.print (storeOf messages)
  { s with phone :=
      { contacts := s.phone.contacts
        messages := loadMessages P none raw
        seenMessageIds := idsRead P raw
        endedPrefs := s.phone.endedPrefs
        queue := ({ s.phone.queue with pendingDeliveries := ∅ } : DeliveryQueue).restoreQueue P.O opens nowMs } }

def step (s : Chats) : ChatEvent → Chats
  | .delivery payload senderHex x => s.written (s.phone.handleDirectPayload P payload senderHex x) x.savesMessages
  | .sendMessage contactId text id saves queued savesAgain =>
    s.written (s.phone.sendMessage P contactId text id saves queued savesAgain) saves
  | .clearMessages contactId saves => s.clearMessages contactId saves
  | .deleteContact contactId saves => s.deleteContact contactId saves
  | .restart opens nowMs => s.restart P opens nowMs

/-! ## What stays removed -/

/-- A delivery brings no message back that was removed. -/
def StaysRemoved (s : Chats) : ChatEvent → Prop
  | .delivery payload senderHex x => ∀ r ∈ s.removed,
    r.2 ∈ (s.step P (.delivery payload senderHex x)).phone.heard r.1 → r.2 ∈ s.phone.heard r.1
  | _ => True

/-- The message was removed, and it could be received and would be new. -/
def Returns (s : Chats) (sender : String) (m : ChatMessage) : Prop :=
  (sender, m.id) ∈ s.removed ∧ Phone.isReceivable P m = true ∧ s.phone.isNew sender m.id = true

/-- A chat message that was removed is kept out as its id is remembered, an announced one as there is no room for it or
its attachment is under way. -/
structure KeepsOut (s : Chats) (payload : Json) (sender : String) (x : Surroundings) : Prop where
  spoken : ∀ m, Phone.spoken P payload sender x = some m → Returns P s sender m → m.id ∈ s.phone.seenMessageIds
  announced : ∀ id size m, Phone.announced P payload sender = some (id, size, m) → Returns P s sender m →
    s.phone.hasRoom P size = false ∨ (s.phone.incomingAttachments.get? id).isSome = true

/-- Whatever a peer delivers is kept out. -/
def Guarded (s : Chats) : ChatEvent → Prop
  | .delivery payload senderHex x =>
    Phone.isFromPeer P senderHex = true → KeepsOut P s payload (clean P.K senderHex) x
  | _ => True

theorem not_mem_heard_of_isNew {s : Phone} {peerId id : String} (h : s.isNew peerId id = true) :
    id ∉ s.heard peerId := by
  intro hmem
  obtain ⟨m, hm, rfl⟩ := List.mem_map.1 hmem
  unfold Phone.isNew at h
  rw [Bool.not_eq_true', List.any_eq_false] at h
  exact h m (List.mem_of_mem_filter hm) (beq_self_eq_true m.id)

/-- What is removed stays so exactly if the message that is added is not one of it. -/
theorem staysRemoved_heardWith {s : Chats} {m? : Option ChatMessage} :
    (∀ r ∈ s.removed, r.2 ∈ Phone.heardWith P s.phone m? r.1 → r.2 ∈ s.phone.heard r.1) ↔
      ∀ m, m? = some m → ¬Returns P s m.senderIdHex m := by
  cases m? with
  | none => exact ⟨fun _ m h => (Option.some_ne_none m h.symm).elim, fun _ r _ h => h⟩
  | some m =>
    constructor
    · rintro h m' hm ⟨hremoved, hreceivable, hnew⟩
      obtain rfl := Option.some.inj hm
      refine not_mem_heard_of_isNew hnew (h _ hremoved ?_)
      unfold Phone.heardWith
      dsimp only
      rw [if_pos ⟨rfl, hreceivable, hnew⟩]
      exact List.mem_append_right _ (List.mem_singleton_self m.id)
    · intro h r hr hmem
      unfold Phone.heardWith at hmem
      dsimp only at hmem
      split at hmem
      · rename_i hadded
        rcases List.mem_append.1 hmem with hold | hsame
        · exact hold
        · have hrm : r = (m.senderIdHex, m.id) := Prod.ext hadded.1 (List.mem_singleton.1 hsame)
          exact absurd ⟨hrm ▸ hr, hadded.2⟩ (h m rfl)
      · exact hmem

theorem senderIdHex_of_announced {payload : Json} {sender id : String} {size : Int} {m : ChatMessage}
    (h : Phone.announced P payload sender = some (id, size, m)) : m.senderIdHex = sender := by
  unfold Phone.announced at h
  split at h
  · cases h
  split at h
  · split at h
    · cases h
      rfl
    · cases h
  · cases h

theorem senderIdHex_of_spoken {payload : Json} {sender : String} {x : Surroundings} {m : ChatMessage}
    (h : Phone.spoken P payload sender x = some m) : m.senderIdHex = sender := by
  unfold Phone.spoken at h
  split at h
  · cases h
  split at h
  · rename_i hmessage
    rw [h] at hmessage
    exact (Phone.fields_of_messageOf P hmessage).2.1
  · cases h

/-- A payload either announces an attachment or is a chat message. -/
theorem spoken_of_announced {payload : Json} {sender id : String} {size : Int} {m : ChatMessage} {x : Surroundings}
    (h : Phone.announced P payload sender = some (id, size, m)) : Phone.spoken P payload sender x = none := by
  unfold Phone.announced at h
  split at h
  · cases h
  have hmanifest : has payload "attachment_manifest" = true := by
    unfold has
    split at h
    · rename_i manifest hobject
      unfold getObject at hobject
      split at hobject
      · rename_i hopt
        rw [hopt]
        rfl
      · cases hobject
    · cases h
  unfold Phone.spoken
  rw [if_pos (by rw [hmanifest, Bool.or_true])]

theorem not_returns_added_iff {s : Chats} {payload : Json} {sender : String} {x : Surroundings} :
    (∀ m, s.phone.added P payload sender x = some m → ¬Returns P s m.senderIdHex m) ↔
      KeepsOut P s payload sender x := by
  unfold Phone.added
  cases hannounced : Phone.announced P payload sender with
  | some r =>
    obtain ⟨id, size, m⟩ := r
    have hsender := senderIdHex_of_announced P hannounced
    have hspoken := spoken_of_announced (x := x) P hannounced
    dsimp only
    constructor
    · intro h
      refine ⟨fun m' hm' => by simp [hspoken] at hm', fun id' size' m' hm' hreturns => ?_⟩
      obtain ⟨rfl, rfl, rfl⟩ : id = id' ∧ size = size' ∧ m = m' := by simpa [hannounced] using hm'
      by_contra hfree
      refine h m (if_pos ?_) (hsender.symm ▸ hreturns)
      simpa [not_or] using hfree
    · intro h m' hm' hreturns
      split at hm'
      · rename_i hfree
        obtain rfl := Option.some.inj hm'
        have hblocked := h.announced id size m hannounced (hsender ▸ hreturns)
        rw [Bool.and_eq_true, Option.isNone_iff_eq_none] at hfree
        rcases hblocked with hroom | hknown
        · rw [hfree.1] at hroom
          cases hroom
        · rw [hfree.2] at hknown
          cases hknown
      · cases hm'
  | none =>
    dsimp only
    constructor
    · intro h
      refine ⟨fun m hm hreturns => ?_, fun id size m hm => by simp [hannounced] at hm⟩
      by_contra hunseen
      refine h m ?_ ((senderIdHex_of_spoken P hm).symm ▸ hreturns)
      rw [hm, Option.filter_some, if_pos]
      simpa using hunseen
    · intro h m hm hreturns
      obtain ⟨hm, hunseen⟩ := Option.filter_eq_some_iff.1 hm
      have hseen := h.spoken m hm (senderIdHex_of_spoken P hm ▸ hreturns)
      simp [hseen] at hunseen

theorem staysRemoved_iff (s : Chats) (e : ChatEvent) : StaysRemoved P s e ↔ Guarded P s e := by
  cases e with
  | delivery payload senderHex x =>
    have hheard : ∀ peerId, (s.step P (.delivery payload senderHex x)).phone.heard peerId = _ :=
      Phone.heard_handleDirectPayload P s.phone payload senderHex x
    unfold StaysRemoved Guarded
    simp only [hheard]
    rw [staysRemoved_heardWith]
    by_cases hpeer : Phone.isFromPeer P senderHex = true
    · rw [if_pos hpeer, not_returns_added_iff]
      exact ⟨fun h _ => h, fun h => h hpeer⟩
    · rw [if_neg hpeer]
      exact ⟨fun _ h => absurd h hpeer, fun _ m h => (Option.some_ne_none m h.symm).elim⟩
  | sendMessage => exact Iff.rfl
  | clearMessages => exact Iff.rfl
  | deleteContact => exact Iff.rfl
  | restart => exact Iff.rfl

/-- Nothing that was removed comes back exactly if every delivery of it finds its id remembered, or no room for its
attachment. -/
theorem run_staysRemoved_iff (s : Chats) (events : List ChatEvent) :
    Steps (step P) (StaysRemoved P) s events ↔ Steps (step P) (Guarded P) s events :=
  steps_congr (staysRemoved_iff P) s events

/-! ## A message that comes back after a start -/

open BobsPhone NodeX.Sample Messenger.Sample

/-- "Hi", as its envelope brings it, now and again from the mailbox. -/
def hi : Json := .object [("id", .string "m1"), ("text", .string "Hi")]

/-- The conversation with Alice, cleared, and what the file says then. -/
def cleared : KeyedMap String (List ChatMessage) := (∅ : KeyedMap String (List ChatMessage)).put alice.userIdHex []

def bobsPhone : Account := storing cleared ("\x7b\"" ++ alice.userIdHex ++ "\":[]\x7d")

def hiTwice : List ChatEvent :=
  [.delivery hi alice.userIdHex arrival, .clearMessages alice.userIdHex true, .restart true 101000,
    .delivery hi alice.userIdHex arrival]

theorem run_staysRemoved_hi :
    (run (step bobsPhone) {} (hiTwice.take 3)).file = some cleared ∧
      ¬Steps (step bobsPhone) (StaysRemoved bobsPhone) {} hiTwice := by
  have hremoved : (run (step bobsPhone) {} (hiTwice.take 3)).removed = [(alice.userIdHex, "m1")] := by decide +kernel
  have hgone : (run (step bobsPhone) {} (hiTwice.take 3)).phone.heard alice.userIdHex = [] := by decide +kernel
  have hback : (run (step bobsPhone) {} hiTwice).phone.heard alice.userIdHex = ["m1"] := by decide +kernel
  refine ⟨by decide +kernel, fun h => ?_⟩
  have hlast := h.2.2.2.1 (alice.userIdHex, "m1") (hremoved ▸ List.mem_singleton_self _)
    (hback ▸ List.mem_singleton_self _)
  have hnone : "m1" ∈ (run (step bobsPhone) {} (hiTwice.take 3)).phone.heard alice.userIdHex := hlast
  rw [hgone] at hnone
  cases hnone

end Chats

end NodeX.Android
