/-
The messenger on its device: a process with the identity it signs with, or the file a stopped one left. A start goes
by what is on disk, so that another user may come of it. The heartbeat and the calls that publish the presence card
are steps too, and restoring a mnemonic changes the identity of the running process.
-/
import NodeX.Messenger.Flow
import NodeX.Messenger.Start

namespace NodeX.Messenger

open NodeX.Lib

variable {C : Crypto}

/-- A running messenger, or what is left on disk. -/
inductive Device (C : Crypto) where
  | running (me : UserIdentity C) (s : Client me)
  | stopped (disk : Option MessengerDb)

inductive DeviceAction where
  /-- A call, or a step of a task; what a restart does is in `start`. -/
  | client (a : ClientAction)
  /-- The presence card goes out, with the heartbeat or otherwise. -/
  | publishPresence
  /-- `update_profile`, and `update_display_name` with the bio as it is. -/
  | updateProfile (displayName bio : String) (saved : Bool)
  | restoreMnemonic (mnemonic : String) (displayName : Option String) (saved : Bool)
  /-- `export_encrypted_backup` of the database in memory to another file. -/
  | exportBackup
  | stop
  | start (displayName : String) (u : NewUser) (now : Nat) (saved : Bool)

def DeviceAction.isStart : DeviceAction → Bool
  | start .. => true
  | _ => false

namespace Client

variable {me : UserIdentity C}

/-- `restore_mnemonic`, with the identity of the trimmed phrase. What was admitted for the other identity and not
handled yet is not followed further. -/
def restoreMnemonic (s : Client me) (id : UserIdentity C) (mnemonic : String) (displayName : Option String)
    (saved : Bool) : Client id :=
  let db := { s.db with
    mnemonic := trim mnemonic, userSeed := id.signingKey, displayName := displayName.getD s.db.displayName }
  { inbox := { db, cache := s.inbox.cache }
    disk := if saved then some db else s.disk
    queue := s.queue, attempts := s.attempts, todo := s.todo, audio := s.audio }

def updateProfile (s : Client me) (displayName bio : String) (saved : Bool) : Client me :=
  s.setDb { s.db with displayName, bio } saved

end Client

namespace Device

variable (B : Bip39) (J : PayloadJson) (T : PresenceText)

/-- What is on disk. -/
def disk : Device C → Option MessengerDb
  | running _ s => s.disk
  | stopped disk => disk

/-- A process starts on what is on disk; without a file it is another user. -/
def launch (C : Crypto) (disk : Option MessengerDb) (displayName : String) (u : NewUser) (now : Nat) (saved : Bool) :
    Device C :=
  match startDb C B (disk.getD {}) displayName u with
  | .error _ => .stopped disk
  | .ok (id, db) =>
    .running id { inbox := { db }, disk := if saved then some db else disk, queue := Client.reload id db now }

def step : Device C → DeviceAction → Device C
  | running me s, .client a =>
    match a with
    | .restart _ => running me s
    | a => running me (s.step J T a)
  | running me s, .publishPresence | running me s, .exportBackup => running me s
  | running me s, .updateProfile displayName bio saved => running me (s.updateProfile displayName bio saved)
  | running me s, .restoreMnemonic mnemonic displayName saved =>
    match UserIdentity.fromMnemonic C B (trim mnemonic) with
    | .error _ => running me s
    | .ok id => running id (s.restoreMnemonic id mnemonic displayName saved)
  | running _ s, .stop => stopped s.disk
  | running _ s, .start displayName u now saved => launch B C s.disk displayName u now saved
  | stopped disk, .start displayName u now saved => launch B C disk displayName u now saved
  | stopped disk, _ => stopped disk

/-- A running device takes the client's steps. -/
theorem step_client {me : UserIdentity C} (s : Client me) {a : ClientAction} (ha : ∀ now, a ≠ .restart now) :
    (running me s).step B J T (.client a) = running me (s.step J T a) := by
  cases a with
  | restart now => exact absurd rfl (ha now)
  | _ => rfl

/-- What is in the database file after the step, and in the backup the step writes. -/
def files (d : Device C) (a : DeviceAction) : List MessengerDb :=
  (d.step B J T a).disk.toList ++
    match d, a with
    | running _ s, .exportBackup => [s.db]
    | _, _ => []

theorem mem_files {d : Device C} {a : DeviceAction} {db : MessengerDb} : db ∈ d.files B J T a ↔
    db ∈ (d.step B J T a).disk ∨ ∃ me s, d = running me s ∧ a = .exportBackup ∧ db = s.db := by
  unfold files
  rw [List.mem_append, Option.mem_toList]
  refine or_congr Iff.rfl ?_
  constructor
  · intro h
    split at h
    · exact ⟨_, _, rfl, rfl, List.mem_singleton.1 h⟩
    · cases h
  · rintro ⟨me, s, rfl, rfl, rfl⟩
    exact List.mem_singleton_self _

end Device

/-! ## What a step sends -/

/-- The id of the chat message in a payload. -/
def ChatMessagePayload.messageId? (p : ChatMessagePayload) : Option String :=
  if p.reaction.isNone && p.deliveryReceipt.isNone && p.readReceipt.isNone && p.callSignal.isNone && p.tombstone.isNone
  then some p.id else none

/-- Something sent: whose keys it was made with, and the id of the chat message in it. -/
structure Sent (C : Crypto) where
  sender : UserIdentity C
  messageId : Option String := none

namespace Device

variable (B : Bip39) (T : PresenceText)

/-- What a step sends. A start, a profile and a restored mnemonic are followed by the presence card. -/
def sends : Device C → DeviceAction → Option (Sent C)
  | running me s, .client a =>
    (s.sendsTo T a).map fun _ =>
      { sender := me
        messageId := match a with
          | .transmit i => (s.attempts[i]?).bind (·.payload.messageId?)
          | _ => none }
  | running me _, .publishPresence | running me _, .updateProfile .. => some { sender := me }
  | running _ _, .restoreMnemonic mnemonic _ _ =>
    match UserIdentity.fromMnemonic C B (trim mnemonic) with
    | .error _ => none
    | .ok id => some { sender := id }
  | d, .start displayName u _ _ =>
    match startDb C B (d.disk.getD {}) displayName u with
    | .error _ => none
    | .ok (id, _) => some { sender := id }
  | _, _ => none

end Device

end NodeX.Messenger
