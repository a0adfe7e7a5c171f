/-
The queue of deliveries (`pendingDeliveries` of `P2PTransportEngine.kt`) with the file it is kept in: registration,
the delivery job, receipts, and what a start finds.
-/
import NodeX.Android.Kotlin

namespace NodeX.Android

open NodeX.Lib Messenger AndroidMessageCrypto

structure PendingDelivery where
  contactId : String
  packet : Bytes
  createdAtMs : Int
  nextAttemptMs : Int
  attempts : Int
deriving DecidableEq

/-- The file of the queue: a list of rows, sealed or from before files were sealed, or bytes that nothing is read of. -/
inductive QueueFile where
  | missing
  | unreadable (isSealed : Bool)
  | rows (isSealed : Bool) (rows : List (String × PendingDelivery))
deriving DecidableEq

/-- `AndroidMessageCrypto.isSealed` -/
def QueueFile.isSealed : QueueFile → Bool
  | .missing => false
  | .unreadable b => b
  | .rows b _ => b

structure DeliveryQueue where
  pendingDeliveries : KeyedMap String PendingDelivery := ∅
  file : QueueFile := .missing
deriving DecidableEq

/-- Seven days. -/
def deliveryLifetimeMs : Int := 7 * 24 * 60 * 60 * 1000

/-- The bytes of the packets. -/
def packetBytes (rows : List (String × PendingDelivery)) : Nat := (rows.map fun r => r.2.packet.length).sum

namespace DeliveryQueue

/-- The rows of a saved queue, by their keys. -/
def sortedRows (pending : KeyedMap String PendingDelivery) : List (String × PendingDelivery) :=
  pending.list.mergeSort fun a b => decide (utf16Units a.1 ≤ utf16Units b.1)

def persistQueue (q : DeliveryQueue) : SaveOutcome → DeliveryQueue
  | .written => { q with file := .rows true (sortedRows q.pendingDeliveries) }
  | .kept => q
  | .removed => { q with file := .missing }

/-- `key.indexOf(':') == 40`, the part before it is the peer, and the peer is written in hex. -/
def isKeyOf (O : OrgJson) (key peer : String) : Bool :=
  utf16Length (String.ofList (key.toList.takeWhile (· ≠ ':'))) == 40 && key.toList.contains ':' &&
    String.ofList (key.toList.takeWhile (· ≠ ':')) == peer && isHex O peer

/-- The loop of `restoreQueue` over the rows. -/
def restoreRows (O : OrgJson) (nowMs : Int) :
    List (String × PendingDelivery) → KeyedMap String PendingDelivery → KeyedMap String PendingDelivery
  | [], pending => pending
  | (key, item) :: rows, pending =>
    if 100 ≤ pending.list.length then pending
    else if 64 * 1024 < item.packet.length ∨ deliveryLifetimeMs < nowMs - item.createdAtMs then
      restoreRows O nowMs rows pending
    else if isKeyOf O key item.contactId = false then restoreRows O nowMs rows pending
    else if 8 * 1024 * 1024 < packetBytes pending.list + item.packet.length then pending
    else restoreRows O nowMs rows (pending.put key item)

/-- `restoreQueue`, where the file can be opened or not. -/
def restoreQueue (O : OrgJson) (q : DeliveryQueue) (opens : Bool) (nowMs : Int) : DeliveryQueue :=
  match q.file with
  | .rows _ rows => if opens then { q with pendingDeliveries := restoreRows O nowMs rows q.pendingDeliveries } else q
  | _ => q

def registerPendingDelivery (q : DeliveryQueue) (key contactId : String) (packet : Bytes) (nowMs : Int)
    (save : SaveOutcome) : DeliveryQueue × Bool :=
  if (q.pendingDeliveries.get? key).isSome then (q, true)
  else if 100 ≤ q.pendingDeliveries.list.length ∨
      8 * 1024 * 1024 < packetBytes q.pendingDeliveries.list + packet.length then (q, false)
  else
    let item : PendingDelivery := ⟨contactId, packet, nowMs, nowMs, 0⟩
    let saved := persistQueue { q with pendingDeliveries := q.pendingDeliveries.put key item } save
    if saved.file.isSealed = false then ({ saved with pendingDeliveries := saved.pendingDeliveries.erase key }, false)
    else (saved, true)

/-- One entry in a round of the delivery job. -/
def deliver (nowMs : Int) (q : DeliveryQueue) (id : String) (pending : PendingDelivery) (save : SaveOutcome) :
    DeliveryQueue :=
  if deliveryLifetimeMs < nowMs - pending.createdAtMs then
    persistQueue { q with pendingDeliveries := q.pendingDeliveries.erase id } save
  else if pending.nextAttemptMs ≤ nowMs then
    let attempts := pending.attempts + 1
    let retried := q.pendingDeliveries.adjust id fun p =>
      { p with attempts, nextAttemptMs := nowMs + 2000 * 2 ^ (min attempts 5).toNat }
    persistQueue { q with pendingDeliveries := retried } save
  else q

/-- A round of the delivery job over the entries it finds. -/
def deliveryJob (nowMs : Int) (saves : Nat → SaveOutcome) (q : DeliveryQueue) : DeliveryQueue :=
  q.pendingDeliveries.list.zipIdx.foldl (fun q e => deliver nowMs q e.1.1 e.1.2 (saves e.2)) q

/-- What a receipt takes out. -/
def acknowledge (q : DeliveryQueue) (key : String) (save : SaveOutcome) : DeliveryQueue :=
  persistQueue { q with pendingDeliveries := q.pendingDeliveries.erase key } save

/-- The start of `reencryptPendingMessagesForPeer`; the texts are sent again later. -/
def dropPeer (K : Kotlin) (q : DeliveryQueue) (peerId : String) (save : SaveOutcome) : DeliveryQueue :=
  let cleanPeer := clean K peerId
  persistQueue { q with pendingDeliveries :=
    q.pendingDeliveries.filter fun e => !K.sameIgnoringCase e.2.contactId cleanPeer } save

end DeliveryQueue

end NodeX.Android
