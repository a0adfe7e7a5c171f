/-
Who speaks in a group's conversation. A message is stored under the group its payload names, and only a reaction is
checked against the members of the group.
-/
import NodeX.Messenger.Flow

namespace NodeX.Messenger

open NodeX.Lib

variable {C : Crypto} (J : PayloadJson) (T : PresenceText) {me : UserIdentity C}

/-- `groups.get(gid).map_or(false, |g| g.members.contains_key(..))`, as the check on reactions has it. -/
def MessengerDb.isGroupMember (db : MessengerDb) (groupId userIdHex : String) : Bool :=
  (db.groups.lookup groupId).any fun g => (g.members.lookup userIdHex).isSome

namespace SavedChatMessage

variable (m : SavedChatMessage)

/-- What no receipt, reaction, edit or pin changes: which message it is, whose, and in which group. -/
def origin : String × String × Option String := (m.id, m.senderIdHex, m.groupId)

@[simp] theorem origin_markDelivered : m.markDelivered.origin = m.origin := rfl

@[simp] theorem origin_addReaction (emoji reactor : String) : (m.addReaction emoji reactor).origin = m.origin := rfl

@[simp] theorem origin_edit (text : String) (ts : Nat) : (m.edit text ts).origin = m.origin := rfl

@[simp] theorem origin_togglePin : m.togglePin.origin = m.origin := rfl

end SavedChatMessage

namespace Client

/-- The envelope a step handles. -/
def handles (s : Client me) : ClientAction → Option (Verified me)
  | .handle e _ _ _ => s.inbox.admitted.find? (·.envelope = e)
  | _ => none

/-- The message came with an envelope handled in the run, of a sender who was a member of the group at that moment. -/
def FromMember (me : UserIdentity C) (as : List ClientAction) (groupId : String) (m : SavedChatMessage) : Prop :=
  ∃ i < as.length, ∃ a ∈ as[i]?, ∃ v ∈ (run (step J T) ({} : Client me) (as.take i)).handles a,
    (chatMessage me v.envelope (v.payload J)).origin = m.origin ∧
      (run (step J T) ({} : Client me) (as.take i)).db.isGroupMember groupId v.senderHex = true

instance (as : List ClientAction) (groupId : String) (m : SavedChatMessage) :
    Decidable (FromMember J T me as groupId m) :=
  inferInstanceAs (Decidable (∃ i < as.length, _))

/-- What is stored of others in a group's conversation came from its members. -/
def GroupAuthentic (me : UserIdentity C) (as : List ClientAction) : Prop :=
  ∀ k m, (run (step J T) ({} : Client me) as).db.message? k = some m → m.incoming = true →
    ∀ groupId, m.groupId = some groupId → FromMember J T me as groupId m

/-- A message to a group that the step stores is from a member of the group. -/
def StoresForMembers (s : Client me) (a : ClientAction) : Prop :=
  ∀ v ∈ s.handles a, branch J me v.envelope (v.payload J) = .newMessage →
    s.db.isTombstoned v.senderHex (chatMessage me v.envelope (v.payload J)).id = false →
    ∀ groupId ∈ (v.payload J).groupId, s.db.isGroupMember groupId v.senderHex = true

instance (s : Client me) (a : ClientAction) : Decidable (s.StoresForMembers J a) :=
  inferInstanceAs (Decidable (∀ v ∈ s.handles a, _ → _ → ∀ groupId ∈ (v.payload J).groupId, _))

/-! ## The invariant -/

/-- `M` holds of what was received for a group. -/
def Placed (M : SavedChatMessage → String → Prop) (m : SavedChatMessage) : Prop :=
  m.incoming = true → ∀ groupId, m.groupId = some groupId → M m groupId

/-- What is stored was placed, in memory and on disk, and what is under way is the user's own. -/
def PlacedInv (M : SavedChatMessage → String → Prop) (s : Client me) : Prop :=
  s.All (Placed M) (Placed M) (fun _ => True) (fun a => ∀ msg, a.job.message? = some msg → msg.incoming = false)
    (fun t => ∀ msg, t = .store msg → msg.incoming = false)

section Invariant

variable {J T} {s : Client me} {M : SavedChatMessage → String → Prop} {m : SavedChatMessage}

theorem placed_of_outgoing (h : m.incoming = false) : Placed M m := by
  intro hin
  rw [h] at hin
  cases hin

/-- A new message whose id is retracted changes nothing stored. -/
theorem message?_handlePayload_of_isTombstoned {dht : Dht} {db : MessengerDb} {v : Verified me} {now : Nat}
    (hb : branch J me v.envelope (v.payload J) = .newMessage)
    (ht : db.isTombstoned v.senderHex (chatMessage me v.envelope (v.payload J)).id = true) (k : String) :
    (handlePayload J T me dht db v now).db.message? k = db.message? k := by
  rw [handlePayload, hb, handleBranch, message?_handleNewMessage, if_neg]
  rintro ⟨rfl, hnot⟩
  exact absurd (ht.symm.trans hnot) (by decide)

/-- What handling leaves is placed when the message handled is. -/
theorem placed_handlePayload (hM : ∀ m m' groupId, m'.origin = m.origin → M m groupId → M m' groupId) {dht : Dht}
    {db : MessengerDb} {v : Verified me} {now : Nat} (hdb : ∀ k m, db.message? k = some m → Placed M m)
    (hnew : branch J me v.envelope (v.payload J) = .newMessage →
      db.isTombstoned v.senderHex (chatMessage me v.envelope (v.payload J)).id = false →
      Placed M (chatMessage me v.envelope (v.payload J))) (k : String) (m : SavedChatMessage)
    (h : (handlePayload J T me dht db v now).db.message? k = some m) : Placed M m := by
  cases message?_of_handlePayload h with
  | message hb =>
    cases ht : db.isTombstoned v.senderHex (chatMessage me v.envelope (v.payload J)).id with
    | true =>
      rw [message?_handlePayload_of_isTombstoned hb ht] at h
      exact hdb k _ h
    | false => exact hnew hb ht
  | same hm => exact hdb k m hm
  | @confirmed m₀ hm => exact fun hin g hg => hM m₀ _ g m₀.origin_markDelivered (hdb k m₀ hm hin g hg)
  | @reacted m₀ hm emoji reactor =>
    exact fun hin g hg => hM m₀ _ g (m₀.origin_addReaction emoji reactor) (hdb k m₀ hm hin g hg)
  | @edited m₀ hm _ _ _ ts => exact fun hin g hg => hM m₀ _ g (m₀.origin_edit _ ts) (hdb k m₀ hm hin g hg)

/-- Only handling a new message places one. -/
theorem PlacedInv.step (h : PlacedInv M s) (hM : ∀ m m' groupId, m'.origin = m.origin → M m groupId → M m' groupId)
    {a : ClientAction}
    (hnew : ∀ v ∈ s.handles a, branch J me v.envelope (v.payload J) = .newMessage →
      s.db.isTombstoned v.senderHex (chatMessage me v.envelope (v.payload J)).id = false →
      Placed M (chatMessage me v.envelope (v.payload J))) : PlacedInv M (s.step J T a) := by
  have hSD : ∀ m, Placed M m → Placed M m := fun _ hm => hm
  have honce : ∀ msg, Job.once.message? = some msg → msg.incoming = false := fun msg hm => by cases hm
  cases a with
  | handle e now dht saved =>
    exact h.handle_of_db hSD saved (fun v hv => placed_handlePayload hM h.stored (hnew v hv))
      fun _ _ _ _ hm => by cases hm
  | receive e now => exact h.receive e now
  | audioFrame packet => exact ⟨h.stored, h.saved, h.queue, h.attempts, h.todo⟩
  | localOp op saved =>
    exact h.localOp hSD op saved fun m hm hin g hg => hM m _ g m.origin_togglePin (hm hin g hg)
  | sendMessage r text image now random x saved =>
    refine h.sendMessage hSD x saved (fun _ => placed_of_outgoing rfl) fun _ hmsg _ _ _ msg hm => ?_
    cases hm
    rw [hmsg]
    rfl
  | sendFile r text manifest now random x =>
    refine (h.record _).deliver hSD x fun _ msg hm => ?_
    cases hm
    rfl
  | sendVoiceNote r note now random x saved =>
    refine h.sendVoiceNote hSD x saved (fun _ _ => placed_of_outgoing rfl) fun _ _ hmsg _ _ msg hm => ?_
    cases hm
    rw [hmsg]
    rfl
  | reactToMessage r id emoji now x saved =>
    exact h.reactToMessage hSD x saved
      (fun m hm hin g hg => hM m _ g (m.origin_addReaction emoji me.userIdHex) (hm hin g hg)) fun _ => honce
  | editMessage r id text now x saved =>
    exact h.editMessage hSD x saved (fun m _ hm hin g hg => hM m _ g (m.origin_edit text now) (hm hin g hg))
      fun _ _ _ => honce
  | sendGroupMessage groupId text members now random saved =>
    exact h.sendGroupMessage hSD saved (placed_of_outgoing rfl) fun _ _ _ _ _ _ _ _ _ hm => by cases hm
  | sendCallSignal r callId signalType text now random x => exact h.deliver hSD x fun _ => honce
  | sendCallAudio r callId samples rate seq routing nonce ephSeed => exact h
  | deleteMessagesForEveryone r ids now x saved => exact h.deleteMessagesForEveryone hSD x saved fun _ _ => honce
  | popPending now x => exact h.popPending hSD x fun _ _ _ _ msg hm => by cases hm
  | transmit i => exact h
  | finish i now saved =>
    -- what an attempt stores is the user's, whatever the transport says
    refine h.finish now saved fun a ha hjob s' hs' => ?_
    have hown : ∀ msg, a.job = .file msg ∨ a.job = .voiceNote msg → msg.incoming = false := by
      rintro msg (hj | hj) <;> exact hjob msg (by rw [hj]; rfl)
    refine hs'.afterAttempt hSD now saved (fun msg _ hm _ => placed_of_outgoing (hjob msg hm))
      (fun msg _ hmsg _ => placed_of_outgoing (hown msg hmsg)) (fun _ _ _ _ _ ht => by cases ht)
      (fun msg hm => ⟨?_, fun _ _ _ => trivial⟩) fun _ _ _ => trivial
    intro msg' hstore
    cases hstore
    exact hjob msg (by rw [hm]; rfl)
  | proceed j now x saved =>
    exact h.proceed hSD x saved (fun msg hw => placed_of_outgoing (hw msg rfl)) (fun _ _ _ _ _ _ => trivial)
      (fun _ _ _ _ => honce) fun _ _ _ _ => honce
  | restart now => exact h.restart now h.saved fun _ _ _ _ _ _ _ _ => trivial

end Invariant

/-! ## Runs -/

section Runs

variable {J T} {as : List ClientAction} {groupId : String} {m : SavedChatMessage}

/-- What came from a member has come from one when the run goes on. -/
theorem FromMember.concat (h : FromMember J T me as groupId m) (a : ClientAction) :
    FromMember J T me (as ++ [a]) groupId m := by
  obtain ⟨i, hi, b, hb, v, hv, horigin, hmember⟩ := h
  have htake : (as ++ [a]).take i = as.take i := List.take_append_of_le_length hi.le
  refine ⟨i, by rw [List.length_append]; omega, b, ?_, v, ?_, horigin, ?_⟩
  · rw [List.getElem?_append_left hi]
    exact hb
  · rw [htake]
    exact hv
  · rw [htake]
    exact hmember

/-- The last action of a run handles the message of a member. -/
theorem fromMember_last {a : ClientAction} {v : Verified me} (hv : v ∈ (run (step J T) ({} : Client me) as).handles a)
    (hmember : (run (step J T) ({} : Client me) as).db.isGroupMember groupId v.senderHex = true) :
    FromMember J T me (as ++ [a]) groupId (chatMessage me v.envelope (v.payload J)) := by
  have htake : (as ++ [a]).take as.length = as := List.take_left
  refine ⟨as.length, by rw [List.length_append, List.length_singleton]; omega, a, ?_, v, ?_, rfl, ?_⟩
  · rw [List.getElem?_append_right le_rfl, Nat.sub_self]
    rfl
  · rw [htake]
    exact hv
  · rw [htake]
    exact hmember

/-- A message of the run's history keeps its place while it keeps its origin. -/
theorem FromMember.of_origin {m' : SavedChatMessage} (horigin : m'.origin = m.origin)
    (h : FromMember J T me as groupId m) : FromMember J T me as groupId m' := by
  unfold FromMember at h ⊢
  rw [horigin]
  exact h

end Runs

/-- In every run in which the messages stored for a group are from its members, what is stored of others in a group's
conversation came from members, and who was never a member has nothing there. -/
theorem run_groupAuthentic (as : List ClientAction)
    (h : Steps (step J T) (StoresForMembers J) ({} : Client me) as) :
    GroupAuthentic J T me as ∧
      ∀ groupId userIdHex,
        (∀ i, (run (step J T) ({} : Client me) (as.take i)).db.isGroupMember groupId userIdHex = false) →
        ∀ k m, (run (step J T) ({} : Client me) as).db.message? k = some m → m.incoming = true →
          m.groupId = some groupId → m.senderIdHex ≠ userIdHex := by
  have hinit : PlacedInv (fun m g => FromMember J T me [] g m) ({} : Client me) :=
    ⟨fun k m hm => (by cases hm), fun _ hd => (by cases hd), fun _ hq => (by cases hq), fun _ ha => (by cases ha),
      fun _ ht => by cases ht⟩
  have hrun : PlacedInv (fun m g => FromMember J T me as g m) (run (step J T) ({} : Client me) as) := by
    refine run_history (I := fun as s => PlacedInv (fun m g => FromMember J T me as g m) s) hinit ?_ as h
    intro as a hI hok
    have hmono : PlacedInv (fun m g => FromMember J T me (as ++ [a]) g m) (run (step J T) ({} : Client me) as) :=
      hI.imp (fun m hm hin g hg => (hm hin g hg).concat a) (fun m hm hin g hg => (hm hin g hg).concat a)
        (fun _ hq => hq) (fun _ ha => ha) fun _ ht => ht
    refine hmono.step (fun m m' g horigin hm => hm.of_origin horigin) fun v hv hb ht _ g hg => ?_
    exact fromMember_last hv (hok v hv hb ht g hg)
  refine ⟨fun k m hm hin g hg => hrun.stored k m hm hin g hg, fun g u hnever k m hm hin hg hsender => ?_⟩
  obtain ⟨i, -, a, -, v, -, horigin, hmember⟩ := hrun.stored k m hm hin g hg
  have hv : v.senderHex = m.senderIdHex := congrArg (·.2.1) horigin
  rw [hv, hsender, hnever i] at hmember
  cases hmember

end Client

/-! ## A group of two, and one more -/

namespace Outsider

open NodeX.Sample Talk

/-- JSON of the message to the group. -/
def print (p : ChatMessagePayload) : Bytes :=
  jsonObject (("id", jsonString p.id) :: ("text", jsonString p.text) ::
    (p.groupId.map fun g => ("group_id", jsonString g)).toList)

def payload : ChatMessagePayload := { id := "m1", text := "Meet at 9", groupId := some "g1" }

def texts : PayloadJson where
  print
  parse bs := if bs = print payload then some payload else none
  printTombstone _ := []
  utf8Lossy _ := ""

def member (user : UserIdentity .transparent) (role : GroupRole) : String × GroupMember :=
  (user.userIdHex, { userIdHex := user.userIdHex, displayName := "", role, joinedAt := 1700000000 })

/-- Alice's group, with Bob. -/
def group : P2PGroup where
  groupId := "g1"
  title := "Lunch"
  description := ""
  creatorIdHex := alice.userIdHex
  members := [member alice .creator, member bob .member].foldl (fun ms p => ms.insert p.1 p.2) ∅
  groupKeyHex := ""
  createdAt := 1700000000
  avatarColorIdx := 0

def sealedBy (user : UserIdentity .transparent) : EncryptedEnvelope :=
  encryptEnvelope .transparent user bob.userId bob.x25519Public (print payload) (List.replicate 32 1)
    (List.replicate 12 1) 1700000001

/-- Bob is in the group, and a message to it comes from the user. -/
def actions (user : UserIdentity .transparent) : List ClientAction := [
  .localOp (.addGroup group) true, .receive (sealedBy user) 1700000002,
  .handle (sealedBy user) 1700000002 (fun _ => .ok none) true]

/-- Bob's client then. -/
def after (user : UserIdentity .transparent) : Client bob :=
  run (Client.step texts presenceText) {} (actions user)

end Outsider

open Outsider Talk NodeX.Sample in
/-- Alice's message is in the conversation. -/
theorem Client.run_groupAuthentic_alice :
    ((after alice).db.message? "m1").map (fun m => (m.senderIdHex, m.groupId)) = some (alice.userIdHex, some "g1") ∧
      Client.GroupAuthentic texts presenceText bob (actions alice) := by
  obtain ⟨hstored, hsteps⟩ :
      ((after alice).db.message? "m1").map (fun m => (m.senderIdHex, m.groupId)) = some (alice.userIdHex, some "g1") ∧
      Steps (Client.step texts presenceText) (Client.StoresForMembers texts) ({} : Client bob) (actions alice) := by
    decide +kernel
  exact ⟨hstored, (Client.run_groupAuthentic texts presenceText (actions alice) hsteps).1⟩

open Outsider Talk NodeX.Sample in
/-- Mallory is not in the group, and her message is. -/
theorem Client.run_groupAuthentic_mallory :
    (after mallory).db.isGroupMember "g1" mallory.userIdHex = false ∧
      ((after mallory).db.message? "m1").map (fun m => (m.senderIdHex, m.groupId)) =
        some (mallory.userIdHex, some "g1") ∧
      ¬ Client.GroupAuthentic texts presenceText bob (actions mallory) := by
  have hcheck : (after mallory).db.isGroupMember "g1" mallory.userIdHex = false ∧
      ((after mallory).db.message? "m1").map (fun m => (m.senderIdHex, m.groupId)) =
        some (mallory.userIdHex, some "g1") ∧
      ((after mallory).db.message? "m1").any (fun m => m.incoming && m.groupId = some "g1" &&
        !decide (Client.FromMember texts presenceText bob (actions mallory) "g1" m)) = true := by
    decide +kernel
  obtain ⟨houtside, hstored, hnot⟩ := hcheck
  refine ⟨houtside, hstored, fun h => ?_⟩
  obtain ⟨m, hm, hm'⟩ := (Option.any_eq_true _ _).1 hnot
  simp only [Bool.and_eq_true, decide_eq_true_eq, Bool.not_eq_true', decide_eq_false_iff_not] at hm'
  exact hm'.2 (h "m1" m hm hm'.1.1 "g1" hm'.1.2)

end NodeX.Messenger
