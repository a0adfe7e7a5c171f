/-
The messages of the desktop client, which keeps two copies of them: the list that is shown and the database of the
messenger. What the user does changes the list at once and the database by a task (`update`); what peers send changes
the database and, as an event, the list (`handle_incoming_events`). Pins, the deletion of whole chats, and what the
network does for a task are left out.
-/
import NodeX.Lib.Replicas
import NodeX.Messenger.Client

namespace NodeX.Gui

open NodeX.Lib Messenger

/-! ## What is shown -/

/-- Notes to oneself are shown by themselves. -/
def isNote (myNodeId : String) (m : SavedChatMessage) : Bool :=
  m.recipientIdHex = "self_saved_messages" || (m.senderIdHex = myNodeId && m.recipientIdHex = myNodeId)

/-- The filter of `active_messages` for a contact or a group. -/
def isShownIn (myNodeId targetId : String) (m : SavedChatMessage) : Bool :=
  if isNote myNodeId m then false
  else
    match m.groupId with
    | some gid => gid = targetId
    | none =>
      (m.senderIdHex = targetId && m.recipientIdHex = myNodeId) ||
        (m.senderIdHex = myNodeId && m.recipientIdHex = targetId)

/-- The chat on the screen; notes are forwarded to no one. -/
structure Chat where
  activeTargetId : Option String
  activeGroup : Option String := none
  isSavedMessages : Bool := false

/-- What is done in the chat goes to the messenger. -/
def Chat.forwards (chat : Chat) : Bool := chat.activeTargetId.isSome && !chat.isSavedMessages

/-! ## Reactions -/

/-- `entry(emoji).or_default().push(reactor)` -/
def pushReaction (emoji reactor : String) (reactions : Reactions) : Reactions :=
  match lookupKey Prod.fst emoji reactions with
  | some _ => modifyKey Prod.fst emoji (fun p => (p.1, p.2 ++ [reactor])) reactions
  | none => reactions ++ [(emoji, [reactor])]

def hasReacted (emoji reactor : String) (reactions : Reactions) : Bool :=
  (lookupKey Prod.fst emoji reactions).any fun p => p.2.contains reactor

/-- The user's own reaction in the list: chosen again, it goes. -/
def toggleReaction (emoji myId : String) (m : SavedChatMessage) : SavedChatMessage :=
  let kept := (m.reactions.map fun p => (p.1, p.2.filter (· ≠ myId))).filter fun p => !p.2.isEmpty
  { m with reactions := if hasReacted emoji myId m.reactions then kept else pushReaction emoji myId kept }

/-- A peer's reaction in the list, beside earlier ones. -/
def showReaction (emoji reactorId : String) (m : SavedChatMessage) : SavedChatMessage :=
  { m with
    reactions := if hasReacted emoji reactorId m.reactions then m.reactions
      else pushReaction emoji reactorId m.reactions }

def showEdit (newText : String) (m : SavedChatMessage) : SavedChatMessage :=
  { m with text := newText, isEdited := true }

/-! ## Tasks -/

/-- What the user sends from the input of a chat. -/
inductive Sending where
  | message (text : String) (replyToId : Option String)
  | voiceNote (note : VoiceNote)
  | file (filename dataBase64 : String)

/-- The calls of the messenger that are spawned. -/
inductive MessengerCall where
  | sendMessage (recipientIdHex text : String)
  | sendVoiceNote (recipientIdHex : String) (note : VoiceNote)
  | reactToMessage (messageId emoji : String)
  | editMessage (messageId newText : String)
  | deleteMessage (messageId : String)
  | deleteMessagesForEveryone (messageIds : List String)
  | clearChat (contactIdHex : String)
  | addMessage (msg : SavedChatMessage)

/-- How a delivery ends: accepted, refused because the recipient is blocked or has no verified key, or failed. -/
inductive Delivery where
  | accepted
  | refused
  | failed

/-- What a task takes from outside. -/
structure CallInput where
  now : Nat := 0
  random : UInt32 := 0
  delivery : Delivery := .accepted

section Model

variable {C : Crypto} (J : PayloadJson) (T : PresenceText) (me : UserIdentity C)

namespace Sending

/-- The message that is put into the list. -/
def newMsg (sending : Sending) (id targetId : String) (group : Option String) (now : Nat) : SavedChatMessage :=
  let msg : SavedChatMessage :=
    { id, senderIdHex := me.userIdHex, recipientIdHex := targetId, text := "", groupId := group, timestamp := now
      incoming := false, delivered := targetId = "self_saved_messages" || targetId = me.userIdHex }
  match sending with
  | message text replyToId => { msg with text, replyToId }
  | voiceNote note =>
    { msg with text := "🎙 Голосовое сообщение (" ++ note.formattedDuration ++ ")", voiceNote := some note }
  | file filename dataBase64 => { msg with text := "[File: " ++ filename ++ "]", imageBase64 := some dataBase64 }

/-- The call that sends it. -/
def task (targetId : String) : Sending → MessengerCall
  | message text _ => .sendMessage targetId text
  | voiceNote note => .sendVoiceNote targetId note
  | file filename _ => .sendMessage targetId ("[File: " ++ filename ++ "]")

end Sending

/-- What a task does to the database, from its start to its end. -/
def MessengerCall.perform (x : CallInput) (db : MessengerDb) : MessengerCall → MessengerDb
  | sendMessage recipientIdHex text =>
    if db.isBlocked recipientIdHex then db
    else
      let msg := outgoing me (newMessageId me x.now x.random) recipientIdHex text x.now
      if isSelf me recipientIdHex then storeWithSelf me db { msg with delivered := true }
      else
        match x.delivery with
        | .refused => db
        | .accepted | .failed => db.addMessage msg
  | sendVoiceNote recipientIdHex note =>
    let text := "🎤 Voice message (" ++ note.formattedDuration ++ ")"
    let msg := { outgoing me (newMessageId me x.now x.random) recipientIdHex text x.now with voiceNote := some note }
    if isSelf me recipientIdHex then storeWithSelf me db { msg with delivered := true }
    else
      match x.delivery with
      | .accepted => db.addMessage { msg with delivered := true }
      | .refused | .failed => db.addMessage msg
  | reactToMessage messageId emoji => db.addReaction messageId emoji me.userIdHex
  | editMessage messageId newText => (db.editMessage messageId newText x.now).1
  | deleteMessage messageId => db.deleteMessage messageId
  | deleteMessagesForEveryone messageIds => (db.deleteMessagesByAuthor messageIds me.userIdHex).1
  | clearChat contactIdHex => db.clearMessagesForContact contactIdHex
  | addMessage msg => db.addMessage msg

/-- The entry of a call in the chat with the peer. -/
def callLogMessage (peerId text id : String) (incoming : Bool) (now : Nat) : SavedChatMessage :=
  { id, senderIdHex := if incoming then peerId else me.userIdHex
    recipientIdHex := if incoming then me.userIdHex else peerId
    text, timestamp := now, incoming, delivered := true }

/-! ## The client -/

/-- The list, the database, the tasks that have been spawned and have not run, and the events not yet read. -/
structure Desktop where
  view : List SavedChatMessage := []
  db : MessengerDb := {}
  tasks : List MessengerCall := []
  events : List MessengerEvent := []

/-- What the user does in a chat, with what is drawn for a message that is sent. -/
inductive UserAction where
  | sendMessage (sending : Sending) (random : String) (now : Nat)
  | reactMessage (msgId emoji : String)
  | editMessage (msgId newText : String)
  | deleteMessage (msgId : String)
  | deleteEveryone (msgId : String)
  | clearHistory (contactId : String)

namespace Desktop

def modify (s : Desktop) (msgId : String) (f : SavedChatMessage → SavedChatMessage) : Desktop :=
  { s with view := modifyKey SavedChatMessage.id msgId f s.view }

def retain (s : Desktop) (p : SavedChatMessage → Bool) : Desktop := { s with view := s.view.filter p }

def spawn (s : Desktop) (call : MessengerCall) : Desktop := { s with tasks := s.tasks ++ [call] }

/-- Spawned unless the chat is that of the notes. -/
def forward (s : Desktop) (chat : Chat) (call : MessengerCall) : Desktop :=
  if chat.forwards then s.spawn call else s

def act (s : Desktop) (chat : Chat) : UserAction → Desktop
  | .sendMessage sending random now =>
    match chat.activeTargetId with
    | none => s
    | some targetId =>
      let s := { s with view := s.view ++ [sending.newMsg me ("msg_" ++ random) targetId chat.activeGroup now] }
      if targetId = "self_saved_messages" then s else s.spawn (sending.task targetId)
  | .reactMessage msgId emoji =>
    (s.modify msgId (toggleReaction emoji me.userIdHex)).forward chat (.reactToMessage msgId emoji)
  | .editMessage msgId newText => (s.modify msgId (showEdit newText)).forward chat (.editMessage msgId newText)
  | .deleteMessage msgId => (s.retain (·.id ≠ msgId)).spawn (.deleteMessage msgId)
  | .deleteEveryone msgId =>
    ((s.retain (·.id ≠ msgId)).spawn (.deleteMessage msgId)).forward chat (.deleteMessagesForEveryone [msgId])
  | .clearHistory contactId =>
    (s.retain fun m => m.senderIdHex ≠ contactId && m.recipientIdHex ≠ contactId).spawn (.clearChat contactId)

/-- `log_call_message` -/
def logCallMessage (s : Desktop) (peerId text id : String) (incoming : Bool) (now : Nat) : Desktop :=
  let msg := callLogMessage me peerId text id incoming now
  { s with view := s.view ++ [msg], tasks := s.tasks ++ [.addMessage msg] }

/-- `handle_incoming_events`, one event. -/
def handleEvent (s : Desktop) : MessengerEvent → Desktop
  | .messageReceived m => { s with view := s.view ++ [m] }
  | .messageDelivered messageId _ => s.modify messageId .markDelivered
  | .messageEdited messageId newText => s.modify messageId (showEdit newText)
  | .reactionAdded messageId emoji reactorId => s.modify messageId (showReaction emoji reactorId)
  | .messageDeleted _ messageIds => s.retain (·.id ∉ messageIds)
  | .contactsUpdated _ | .callSignalReceived _ | .callAudioReceived .. => s

end Desktop

/-- The user acts; a call ends and is logged; the `i`-th task runs; the messenger handles an envelope; the client reads
an event. -/
inductive DesktopStep where
  | user (chat : Chat) (action : UserAction)
  | callEnded (peerId text id : String) (incoming : Bool) (now : Nat)
  | task (i : Nat) (x : CallInput)
  | handle (v : Verified me) (now : Nat) (dht : Dht)
  | read

namespace Desktop

variable {me}

def step (s : Desktop) : DesktopStep me → Desktop
  | .user chat action => s.act me chat action
  | .callEnded peerId text id incoming now => s.logCallMessage me peerId text id incoming now
  | .task i x =>
    match s.tasks[i]? with
    | none => s
    | some call => { s with db := call.perform me x s.db, tasks := s.tasks.eraseIdx i }
  | .handle v now dht =>
    let handled := handlePayload J T me dht s.db v now
    { s with db := handled.db, events := s.events ++ handled.events }
  | .read =>
    match s.events with
    | [] => s
    | event :: rest => { s with events := rest }.handleEvent event

/-- The client as it starts. -/
def start (db : MessengerDb) : Desktop := { view := db.messages.list, db }

end Desktop

end Model

end NodeX.Gui
