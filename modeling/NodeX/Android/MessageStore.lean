/-
The file of the messages (`saveMessages`, `loadMessages`). A message is written with all its fields and read back with
one that is computed anew: whether it was delivered.
-/
import NodeX.Android.Envelopes

namespace NodeX.Android

open NodeX.Lib Messenger AndroidMessageCrypto

/-! ## The file -/

/-- A number as `org.json` keeps it. -/
def intJson (n : Int) : Json := if 0 ≤ n then .nat n.toNat else .number (toString n)

def rowOf (m : ChatMessage) : Json :=
  .object [("id", .string m.id), ("senderIdHex", .string m.senderIdHex), ("text", .string m.text),
    ("isIncoming", .bool m.isIncoming), ("isDelivered", .bool m.isDelivered), ("isVoice", .bool m.isVoice),
    ("voiceDurationSecs", intJson m.voiceDurationSecs), ("audioFilePath", .string m.audioFilePath),
    ("isImage", .bool m.isImage), ("imageFilePath", .string m.imageFilePath), ("isFile", .bool m.isFile),
    ("filePath", .string m.filePath), ("fileName", .string m.fileName),
    ("fileSizeFormatted", .string m.fileSizeFormatted), ("attachmentId", .string m.attachmentId),
    ("attachmentSizeBytes", intJson m.attachmentSizeBytes), ("attachmentMimeType", .string m.attachmentMimeType)]

/-- What `saveMessages` writes. -/
def storeOf (messages : KeyedMap String (List ChatMessage)) : Json :=
  .object (messages.list.map fun e => (e.1, .array (e.2.map rowOf)))

section Load

variable (P : Account) (legacyId : Option String)

/-- The id of an account from before ids were derived anew gives way to the new one. -/
def migrated (id : String) : String :=
  match legacyId with
  | some legacy => if P.K.sameIgnoringCase id legacy then P.localNodeIdHex else id
  | none => id

/-- `contains(part, ignoreCase = true)` -/
def containsIgnoringCase (K : Kotlin) (s part : String) : Bool :=
  s.toList.tails.any fun rest => K.sameIgnoringCase (String.ofList (rest.take part.toList.length)) part

def isLocalCallRecord (text : String) : Bool :=
  containsIgnoringCase P.K text "вызов" || containsIgnoringCase P.K text "звонок"

/-- The messages that are read back as delivered if they were. -/
def keepsDelivered (contactId text : String) (isIncoming : Bool) : Bool :=
  isIncoming || isLocalCallRecord P text || P.K.sameIgnoringCase contactId P.localNodeIdHex

def messageOfRow (contactId : String) (row : Json) : Except Thrown ChatMessage := do
  let isIncoming ← getBoolean P.K row "isIncoming"
  let text ← getString P.K.valueOf row "text"
  let isDelivered := optBoolean P.K row "isDelivered" true && keepsDelivered P contactId text isIncoming
  let id ← getString P.K.valueOf row "id"
  let senderIdHex ← getString P.K.valueOf row "senderIdHex"
  return { id, senderIdHex := migrated P legacyId senderIdHex, text, isIncoming, isDelivered
           isVoice := optBoolean P.K row "isVoice" false
           voiceDurationSecs := optInt P.O row "voiceDurationSecs" 0
           audioFilePath := optString P.K row "audioFilePath" ""
           isImage := optBoolean P.K row "isImage" false
           imageFilePath := optString P.K row "imageFilePath" ""
           isFile := optBoolean P.K row "isFile" false
           filePath := optString P.K row "filePath" ""
           fileName := optString P.K row "fileName" ""
           fileSizeFormatted := optString P.K row "fileSizeFormatted" ""
           attachmentId := optString P.K row "attachmentId" ""
           attachmentSizeBytes := optLong P.O row "attachmentSizeBytes" 0
           attachmentMimeType := optString P.K row "attachmentMimeType" "" }

/-- The rows of a conversation, by the id it goes under from now on. -/
def conversationOf (e : String × Json) : Except Thrown (String × List ChatMessage) :=
  match e.2 with
  | .array rows => do
    let contactId := migrated P legacyId e.1
    let messages ← rows.mapM (messageOfRow P legacyId contactId)
    return (contactId, messages)
  | _ => .error .library

/-- Conversations into a map, where a later one replaces an earlier one of its id. -/
def putAll (conversations : List (String × List ChatMessage)) : KeyedMap String (List ChatMessage) :=
  conversations.foldl (fun map e => map.put e.1 e.2) ∅

/-- `loadMessages` of what the file holds, if it can be opened. -/
def loadMessages (raw : Option Bytes) : KeyedMap String (List ChatMessage) :=
  match raw.bind P.O.parse with
  | some (.object fields) =>
    match fields.mapM (conversationOf P legacyId) with
    | .ok conversations => putAll conversations
    | .error _ => ∅
  | _ => ∅

/-- The messages that a start sends again. -/
def pendingOutgoingMessages (messages : KeyedMap String (List ChatMessage)) : List (String × ChatMessage) :=
  messages.list.flatMap fun e =>
    (e.2.filter fun m => !m.isIncoming && !m.isDelivered && !startsWith m.text "📞" && !startsWith m.text "📲").map
      fun m => (e.1, m)

end Load

/-! ## What is read back -/

theorem at?_foldl_put {β : Type} : ∀ (l : List (String × β)) (map : KeyedMap String β), ∀ e ∈ l, ∃ e' ∈ l, e'.1 = e.1 ∧
    (l.foldl (fun map e => map.put e.1 e.2) map).at? e.1 = some e'.2
  | [], _, e, he => absurd he List.not_mem_nil
  | a :: l, map, e, he => by
    rw [List.foldl_cons]
    by_cases hlater : ∃ e' ∈ l, e'.1 = e.1
    · obtain ⟨e', he', hkey⟩ := hlater
      obtain ⟨e'', he'', hkey', hget⟩ := at?_foldl_put l (map.put a.1 a.2) e' he'
      exact ⟨e'', List.mem_cons_of_mem _ he'', hkey'.trans hkey, hkey ▸ hget⟩
    · have hkeep : ∀ (l : List (String × β)) (map : KeyedMap String β), (¬∃ e' ∈ l, e'.1 = e.1) →
          (l.foldl (fun map e => map.put e.1 e.2) map).at? e.1 = map.at? e.1 := by
        intro l
        induction l with
        | nil => exact fun _ _ => rfl
        | cons b l ih =>
          intro map hnone
          rw [List.foldl_cons, ih _ fun h => hnone (h.imp fun e' h => ⟨List.mem_cons_of_mem _ h.1, h.2⟩),
            KeyedMap.at?_put, if_neg fun h => hnone ⟨b, List.mem_cons_self, h⟩]
      rcases List.mem_cons.1 he with rfl | he
      · exact ⟨e, List.mem_cons_self, rfl, by rw [hkeep l _ hlater, KeyedMap.at?_put, if_pos rfl]⟩
      · exact absurd ⟨e, he, rfl⟩ hlater

theorem mem_of_at?_foldl_put {β : Type} {k : String} {v : β} : ∀ {l : List (String × β)} {map : KeyedMap String β},
    (l.foldl (fun map e => map.put e.1 e.2) map).at? k = some v → (k, v) ∈ l ∨ map.at? k = some v
  | [], _, h => .inr h
  | a :: l, map, h => by
    rw [List.foldl_cons] at h
    rcases mem_of_at?_foldl_put h with h | h
    · exact .inl (List.mem_cons_of_mem _ h)
    · rw [KeyedMap.at?_put] at h
      split at h
      · rename_i hkey
        cases h
        exact .inl (hkey ▸ List.mem_cons_self)
      · exact .inr h

variable (P : Account) (legacyId : Option String)

/-- A message as it is read back. -/
def restored (contactId : String) (m : ChatMessage) : ChatMessage :=
  { m with
    senderIdHex := migrated P legacyId m.senderIdHex
    isDelivered := m.isDelivered && keepsDelivered P contactId m.text m.isIncoming
    voiceDurationSecs := optInt P.O (rowOf m) "voiceDurationSecs" 0
    attachmentSizeBytes := optLong P.O (rowOf m) "attachmentSizeBytes" 0
    ofCall := false }

variable {P legacyId} {messages : KeyedMap String (List ChatMessage)}

theorem messageOfRow_rowOf (hbool : ∀ b, P.K.toBoolean (.bool b) = some b) (contactId : String) (m : ChatMessage) :
    messageOfRow P legacyId contactId (rowOf m) = .ok (restored P legacyId contactId m) := by
  have hopt : ∀ name b fallback, opt (rowOf m) name = some (.bool b) → optBoolean P.K (rowOf m) name fallback = b := by
    intro name b fallback h
    unfold optBoolean
    rw [h, Option.bind_some, hbool, Option.getD_some]
  have hincoming : getBoolean P.K (rowOf m) "isIncoming" = .ok m.isIncoming := by
    have hget : opt (rowOf m) "isIncoming" = some (.bool m.isIncoming) := rfl
    unfold getBoolean
    rw [hget, Option.bind_some, hbool]
  unfold messageOfRow restored
  rw [hincoming, hopt "isDelivered" m.isDelivered true rfl, hopt "isVoice" m.isVoice false rfl,
    hopt "isImage" m.isImage false rfl, hopt "isFile" m.isFile false rfl]
  rfl

theorem conversationOf_stored (hbool : ∀ b, P.K.toBoolean (.bool b) = some b) (e : String × List ChatMessage) :
    conversationOf P legacyId (e.1, .array (e.2.map rowOf)) =
      .ok (migrated P legacyId e.1, e.2.map (restored P legacyId (migrated P legacyId e.1))) := by
  have hrows : ∀ l : List ChatMessage, (l.map rowOf).mapM (messageOfRow P legacyId (migrated P legacyId e.1)) =
      .ok (l.map (restored P legacyId (migrated P legacyId e.1))) := by
    intro l
    induction l with
    | nil => rfl
    | cons m l ih =>
      rw [List.map_cons, List.mapM_cons, messageOfRow_rowOf hbool, ih]
      rfl
  unfold conversationOf
  dsimp only
  rw [hrows]
  rfl

/-- What is loaded of what was saved. -/
theorem loadMessages_stored (hbool : ∀ b, P.K.toBoolean (.bool b) = some b)
    (hparse : P.O.parse (P.O.print (storeOf messages)) = some (storeOf messages)) :
    loadMessages P legacyId (some (P.O.print (storeOf messages))) =
      putAll (messages.list.map fun e =>
        (migrated P legacyId e.1, e.2.map (restored P legacyId (migrated P legacyId e.1)))) := by
  have hall : ∀ l : List (String × List ChatMessage),
      (l.map fun e => (e.1, Json.array (e.2.map rowOf))).mapM (conversationOf P legacyId) =
        .ok (l.map fun e => (migrated P legacyId e.1, e.2.map (restored P legacyId (migrated P legacyId e.1)))) := by
    intro l
    induction l with
    | nil => rfl
    | cons e l ih =>
      rw [List.map_cons, List.mapM_cons, conversationOf_stored hbool, ih]
      rfl
  unfold loadMessages
  rw [Option.bind_some, hparse]
  unfold storeOf
  dsimp only
  rw [hall]

/-! ## Delivered messages -/

/-- A message with its kind and whether it was delivered. -/
def shown (m : ChatMessage) : String × String × Bool × Bool × Bool × Bool × Bool :=
  (m.id, m.text, m.isIncoming, m.isVoice, m.isImage, m.isFile, m.isDelivered)

variable (P legacyId) in
/-- Every message is loaded as delivered exactly if it was, and no message that was is sent again. -/
structure FlagsRestored (messages : KeyedMap String (List ChatMessage)) : Prop where
  loaded : ∀ e ∈ messages.list, ∃ list,
    (loadMessages P legacyId (some (P.O.print (storeOf messages)))).at? (migrated P legacyId e.1) = some list ∧
      list.map shown = e.2.map shown
  pending : ∀ p ∈ pendingOutgoingMessages (loadMessages P legacyId (some (P.O.print (storeOf messages)))),
    ∃ e ∈ messages.list, migrated P legacyId e.1 = p.1 ∧ ∃ m ∈ e.2, m.id = p.2.id ∧ m.isDelivered = false

variable (P legacyId) in
/-- Only messages that came in, records of calls and notes to oneself are marked as delivered, and no conversations
become one. -/
structure FlagsKept (messages : KeyedMap String (List ChatMessage)) : Prop where
  delivered : ∀ e ∈ messages.list, ∀ m ∈ e.2, m.isDelivered = true →
    keepsDelivered P (migrated P legacyId e.1) m.text m.isIncoming = true
  apart : ∀ e ∈ messages.list, ∀ e' ∈ messages.list, migrated P legacyId e.1 = migrated P legacyId e'.1 →
    e.2.map shown = e'.2.map shown

theorem shown_restored {contactId : String} {m : ChatMessage}
    (h : m.isDelivered = true → keepsDelivered P contactId m.text m.isIncoming = true) :
    shown (restored P legacyId contactId m) = shown m := by
  have hflag : (m.isDelivered && keepsDelivered P contactId m.text m.isIncoming) = m.isDelivered := by
    cases hdelivered : m.isDelivered with
    | false => rfl
    | true => rw [h hdelivered, Bool.and_self]
  unfold shown restored
  dsimp only
  rw [hflag]

/-- A start restores what was saved exactly if no message that was sent is marked as delivered, but for calls and notes
to oneself. -/
theorem flagsRestored_iff (hbool : ∀ b, P.K.toBoolean (.bool b) = some b)
    (hparse : P.O.parse (P.O.print (storeOf messages)) = some (storeOf messages)) :
    FlagsRestored P legacyId messages ↔ FlagsKept P legacyId messages := by
  have hload : loadMessages P legacyId (some (P.O.print (storeOf messages))) = _ := loadMessages_stored hbool hparse
  have hget : ∀ e ∈ messages.list, ∃ e' ∈ messages.list, migrated P legacyId e'.1 = migrated P legacyId e.1 ∧
      (loadMessages P legacyId (some (P.O.print (storeOf messages)))).at? (migrated P legacyId e.1) =
        some (e'.2.map (restored P legacyId (migrated P legacyId e'.1))) := by
    intro e he
    obtain ⟨c, hc, hkey, hat⟩ := at?_foldl_put _ ∅ _ (List.mem_map_of_mem (f := fun e : String × List ChatMessage =>
      (migrated P legacyId e.1, e.2.map (restored P legacyId (migrated P legacyId e.1)))) he)
    obtain ⟨e', he', rfl⟩ := List.mem_map.1 hc
    exact ⟨e', he', hkey, by rw [hload]; exact hat⟩
  constructor
  · intro h
    refine ⟨fun e he m hm hdelivered => ?_, fun e he e' he' hsame => ?_⟩
    · obtain ⟨list, hlist, hshown⟩ := h.loaded e he
      obtain ⟨e', -, hkey, hat⟩ := hget e he
      obtain rfl := Option.some.inj (hat.symm.trans hlist)
      have hmem : shown m ∈ (e'.2.map (restored P legacyId (migrated P legacyId e'.1))).map shown :=
        hshown ▸ List.mem_map_of_mem hm
      rw [List.map_map] at hmem
      obtain ⟨m', -, hm'⟩ := List.mem_map.1 hmem
      simp only [Function.comp, shown, restored, Prod.mk.injEq] at hm'
      obtain ⟨-, htext, hincoming, -, -, -, hflag⟩ := hm'
      rw [hdelivered, Bool.and_eq_true] at hflag
      rw [← htext, ← hincoming, ← hkey]
      exact hflag.2
    · obtain ⟨list, hlist, hshown⟩ := h.loaded e he
      obtain ⟨list', hlist', hshown'⟩ := h.loaded e' he'
      rw [hsame, hlist'] at hlist
      obtain rfl := Option.some.inj hlist
      exact hshown.symm.trans hshown'
  · intro h
    have hkept : ∀ e ∈ messages.list, (e.2.map (restored P legacyId (migrated P legacyId e.1))).map shown =
        e.2.map shown := by
      intro e he
      rw [List.map_map]
      exact List.map_congr_left fun m hm => shown_restored (h.delivered e he m hm)
    refine ⟨fun e he => ?_, fun p hp => ?_⟩
    · obtain ⟨e', he', hkey, hat⟩ := hget e he
      exact ⟨_, hat, (hkept e' he').trans (h.apart e' he' e he hkey)⟩
    · obtain ⟨c, hc, hpc⟩ := List.mem_flatMap.1 hp
      obtain ⟨m', hm', rfl⟩ := List.mem_map.1 hpc
      obtain ⟨hm', hpending⟩ := List.mem_filter.1 hm'
      rw [hload] at hc
      have hat := KeyedMap.at?_eq_some.2 hc
      rcases mem_of_at?_foldl_put hat with hstored | hempty
      · obtain ⟨e, he, heq⟩ := List.mem_map.1 hstored
        obtain ⟨hkey, hlist⟩ := Prod.mk.inj heq
        rw [← hlist] at hm'
        obtain ⟨m, hm, rfl⟩ := List.mem_map.1 hm'
        refine ⟨e, he, hkey, m, hm, rfl, ?_⟩
        have hshown : shown (restored P legacyId (migrated P legacyId e.1) m) = shown m :=
          shown_restored (h.delivered e he m hm)
        have hflag : (restored P legacyId (migrated P legacyId e.1) m).isDelivered = m.isDelivered :=
          congrArg (fun t => t.2.2.2.2.2.2) hshown
        rw [hflag] at hpending
        cases hdelivered : m.isDelivered with
        | false => rfl
        | true => simp [hdelivered] at hpending
      · cases hempty

/-! ## A message that was delivered -/

namespace BobsPhone

open NodeX.Sample Messenger.Sample

/-- The phone whose file holds this text for these messages. -/
def storing (messages : KeyedMap String (List ChatMessage)) (text : String) : Account :=
  { account fun _ => none with
    O := { emptyObject with
      parse := fun bytes => if bytes = utf8 text then some (storeOf messages) else none
      print := fun _ => utf8 text } }

/-- "Hello" to Alice, once received from her and once sent and confirmed. -/
def greeting (isIncoming : Bool) : ChatMessage := { id := "m1", senderIdHex := "", text := "Hello", isIncoming }

def greetings (isIncoming : Bool) : KeyedMap String (List ChatMessage) :=
  (∅ : KeyedMap String (List ChatMessage)).put "a1" [greeting isIncoming]

/-- The text of the row up to the direction, and from there. -/
def greetingsText (direction : String) : String :=
  "\x7b\"a1\":[\x7b\"id\":\"m1\",\"senderIdHex\":\"\",\"text\":\"Hello\",\"isIncoming\":" ++ direction ++
    ",\"isDelivered\":true,\"isVoice\":false,\"voiceDurationSecs\":0,\"audioFilePath\":\"\",\"isImage\":false," ++
    "\"imageFilePath\":\"\",\"isFile\":false,\"filePath\":\"\",\"fileName\":\"\",\"fileSizeFormatted\":\"\"," ++
    "\"attachmentId\":\"\",\"attachmentSizeBytes\":0,\"attachmentMimeType\":\"\"\x7d]\x7d"

def phoneOf (isIncoming : Bool) : Account :=
  storing (greetings isIncoming) (greetingsText (if isIncoming then "true" else "false"))

theorem parse_print_storing (messages : KeyedMap String (List ChatMessage)) (text : String) (v : Json) :
    (storing messages text).O.parse ((storing messages text).O.print v) = some (storeOf messages) :=
  if_pos rfl

theorem list_greetings (isIncoming : Bool) : (greetings isIncoming).list = [("a1", [greeting isIncoming])] := rfl

end BobsPhone

open BobsPhone

theorem flagsRestored_incoming : FlagsRestored (phoneOf true) none (greetings true) := by
  refine (flagsRestored_iff (fun _ => rfl) (parse_print_storing _ _ _)).2 ⟨?_, ?_⟩
  · intro e he m hm _
    rw [list_greetings, List.mem_singleton] at he
    subst he
    rw [List.mem_singleton] at hm
    subst hm
    rfl
  · intro e he e' he' _
    rw [list_greetings, List.mem_singleton] at he he'
    rw [he, he']

/-- A confirmed message to a contact is loaded as not delivered and is sent again. -/
theorem not_flagsRestored_outgoing :
    (∀ b, (phoneOf false).K.toBoolean (.bool b) = some b) ∧
      (phoneOf false).O.parse ((phoneOf false).O.print (storeOf (greetings false))) = some (storeOf (greetings false)) ∧
      (greeting false).isDelivered = true ∧
      (pendingOutgoingMessages (loadMessages (phoneOf false) none
        (some ((phoneOf false).O.print (storeOf (greetings false)))))).map (fun p => (p.1, p.2.id)) = [("a1", "m1")] ∧
      ¬FlagsRestored (phoneOf false) none (greetings false) := by
  have hload : loadMessages (phoneOf false) none
      (some ((phoneOf false).O.print (storeOf (greetings false)))) = _ :=
    loadMessages_stored (fun _ => rfl) (parse_print_storing (greetings false) _ _)
  have hstored : pendingOutgoingMessages (putAll ((greetings false).list.map fun e =>
      (migrated (phoneOf false) none e.1,
        e.2.map (restored (phoneOf false) none (migrated (phoneOf false) none e.1))))) =
      [("a1", restored (phoneOf false) none "a1" (greeting false))] := by
    decide +kernel
  refine ⟨fun _ => rfl, parse_print_storing _ _ _, rfl, ?_, fun h => ?_⟩
  · rw [hload, hstored]
    rfl
  · have hsent := h.pending ("a1", restored (phoneOf false) none "a1" (greeting false))
      (by rw [hload, hstored]; exact List.mem_singleton_self _)
    obtain ⟨e, he, -, m, hm, -, hfalse⟩ := hsent
    rw [list_greetings, List.mem_singleton] at he
    subst he
    rw [List.mem_singleton] at hm
    subst hm
    cases hfalse

end NodeX.Android
