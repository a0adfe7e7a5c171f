/-
`try_deliver_payload`: an envelope is offered to the recipient's addresses, over UDP and for some of them over
TCP, then to the addresses a hole punch opened, and at last to the nodes closest to the mailbox key. The first
answer that is taken for a success ends the call; the last tier succeeds whatever is answered. What the network
does is in `Network`: for every call the answer it got, and whether that came from this node itself.
-/
import NodeX.Messenger.Deposit
import NodeX.Messenger.Presence
import NodeX.Kad.Wire

namespace NodeX.Messenger

/-! ## Answers -/

/-- The answer to a STORE over UDP. -/
structure Answer where
  payload : Kad.RpcPayload
  fromSelf : Bool
deriving DecidableEq

/-- The two bytes that came back over TCP. -/
structure BridgeAnswer where
  msgType : UInt8
  status : UInt8
  fromSelf : Bool
deriving DecidableEq

/-- What surrounds a call: the routing table if it can be read, the answers in each tier by the number of the
address, the addresses a hole punch verified, and what the lookups of mailbox and nodes find. -/
structure Network where
  localAddr : SocketAddr
  nodeId : NodeId
  routing : Option (List Kad.Contact) := none
  direct : Nat → Option Answer := fun _ => none
  bridge : Nat → Option BridgeAnswer := fun _ => none
  punched : List SocketAddr := []
  punch : Nat → Option Answer := fun _ => none
  mailbox : Except String (Option Bytes) := .ok none
  closest : List Kad.Contact := []
  replica : Nat → Option Answer := fun _ => none

/-- The content of a STORE: under which key, and the envelopes. -/
structure StoreRequest where
  key : NodeId
  envelopes : List EncryptedEnvelope
deriving DecidableEq

/-- An answer that was taken for a success: to what, whether it was one, and whether it came from this node. -/
structure Ack where
  request : StoreRequest
  positive : Bool
  fromSelf : Bool
deriving DecidableEq

/-- `StoreAck { ok: true }`. -/
def Answer.ack (request : StoreRequest) (a : Answer) : Option Ack :=
  if a.payload = .storeAck true then some ⟨request, true, a.fromSelf⟩ else none

/-- Any two bytes will do; the acknowledgement of the bridge is a `StoreAck` with status 0. -/
def BridgeAnswer.ack (request : StoreRequest) (a : BridgeAnswer) : Ack :=
  ⟨request, a.msgType = Kad.msgStoreAck && a.status = 0, a.fromSelf⟩

/-! ## The tiers -/

/-- The addresses of the first tier: the target first, unless it is among the candidates. -/
def addrsToDeliver (candidates : List SocketAddr) (target : Option SocketAddr) : List SocketAddr :=
  match target with
  | some addr => if addr ∈ candidates then candidates else addr :: candidates
  | none => candidates

/-- The TCP bridge is tried on its port and on this host. -/
def hasBridge (addr : SocketAddr) : Bool := addr.port = 8444 || addr.ip.isLoopback

/-- A try of the first two tiers, with its number in the tier. -/
inductive Try where
  | direct (addr : SocketAddr) (i : Nat)
  | punch (addr : SocketAddr) (i : Nat)
deriving DecidableEq

namespace Network

variable (N : Network)

/-- A direct STORE, and the bridge if it fails. -/
def directAck (request : StoreRequest) (addr : SocketAddr) (i : Nat) : Option Ack :=
  match (N.direct i).bind (Answer.ack request) with
  | some ack => some ack
  | none => if hasBridge addr then (N.bridge i).map (BridgeAnswer.ack request) else none

def punchAck (request : StoreRequest) (i : Nat) : Option Ack := (N.punch i).bind (Answer.ack request)

/-- The recipient's address: as resolved, else from the routing table. -/
def targetAddr (recipientId : NodeId) (resolved : Option SocketAddr) : Option SocketAddr :=
  resolved.or (N.routing.bind fun contacts => (contacts.find? (·.id = recipientId)).map (·.addr))

/-- `put` replicates to the nodes found, other than this one. -/
def replicas : List (Kad.Contact × Nat) :=
  N.closest.zipIdx.filter fun c => !(c.1.addr = N.localAddr || c.1.id = N.nodeId)

def replicaAcks (request : StoreRequest) : List Ack :=
  N.replicas.filterMap fun c => (N.replica c.2).bind (Answer.ack request)

/-- What `put` returns: the number of copies, the local one included. -/
def put (request : StoreRequest) : Nat × List Ack :=
  if N.closest.isEmpty then (1, []) else (1 + (N.replicaAcks request).length, N.replicaAcks request)

/-- What `get_silent` answers for the mailbox, errors left aside. -/
def mailboxRead : Option Bytes := N.mailbox.toOption.join

end Network

section Model

variable {C : Crypto} (T : PresenceText) (J : PayloadJson) (M : MailboxJson) (me : UserIdentity C) (N : Network)

/-- `NodeId::from_key` of `current_mailbox_key`. -/
def mailboxKeyId (C : Crypto) (userIdHex : String) (now : Nat) : NodeId :=
  NodeId.fromKey C (utf8 (deriveSecureMailboxKey C userIdHex now))

/-- A call of `try_deliver_payload`: what it returned, the envelope it sealed, and the answers it took for
successes. -/
structure Delivery where
  outcome : Outcome Unit MessengerError
  envelope : Option EncryptedEnvelope := none
  acks : List Ack := []
deriving DecidableEq

/-- The tiers with a sealed envelope; the clock is read again for the deposit. -/
def cascade (recipientIdHex : String) (d : Resolved) (envelope : EncryptedEnvelope) (now later : Nat) : Delivery :=
  let request : StoreRequest := ⟨mailboxKeyId C recipientIdHex now, [envelope]⟩
  let addrs := addrsToDeliver d.candidates (N.targetAddr envelope.recipientId d.targetAddr)
  match addrs.zipIdx.findSome? fun a => N.directAck request a.1 a.2 with
  | some ack => { outcome := .ok (), envelope := some envelope, acks := [ack] }
  | none =>
    let punched := if d.candidates.isEmpty then [] else N.punched
    match punched.zipIdx.findSome? fun a => N.punchAck request a.2 with
    | some ack => { outcome := .ok (), envelope := some envelope, acks := [ack] }
    | none =>
      -- `put` counts the local copy, so the deposit never fails
      let deposit : StoreRequest :=
        ⟨mailboxKeyId C recipientIdHex later, depositEnvelopes M N.mailboxRead envelope⟩
      { outcome := .ok (), envelope := some envelope, acks := (N.put deposit).2 }

def tryDeliverPayload (dht : Dht) (db : MessengerDb) (recipientIdHex : String) (payload : ChatMessagePayload)
    (ephSeed nonce : Bytes) (timestamp : UInt64) (now later : Nat) : Delivery :=
  match sealPayload C T J me dht db recipientIdHex payload ephSeed nonce timestamp with
  | .err e => { outcome := .err e }
  | .panic => { outcome := .panic }
  | .ok (d, envelope) => cascade (C := C) M N recipientIdHex d envelope now later

end Model

/-- Whether the call succeeds is settled when the envelope is sealed: the last tier never fails. -/
theorem outcome_tryDeliverPayload {C : Crypto} (T : PresenceText) (J : PayloadJson) (M : MailboxJson)
    (me : UserIdentity C) (N : Network) (dht : Dht) (db : MessengerDb) (r : String) (payload : ChatMessagePayload)
    (ephSeed nonce : Bytes) (timestamp : UInt64) (now later : Nat) :
    (tryDeliverPayload T J M me N dht db r payload ephSeed nonce timestamp now later).outcome =
      (sealPayload C T J me dht db r payload ephSeed nonce timestamp).map fun _ => () := by
  unfold tryDeliverPayload
  cases sealPayload C T J me dht db r payload ephSeed nonce timestamp with
  | err e => rfl
  | panic => rfl
  | ok sealed =>
    dsimp only
    unfold cascade
    dsimp only
    split
    · rfl
    · split <;> rfl

/-! ## What left the node -/

/-- Another node has acknowledged that it stores the envelope under a mailbox key of the recipient. -/
def Ack.Elsewhere (C : Crypto) (recipientIdHex : String) (envelope : EncryptedEnvelope) (a : Ack) : Prop :=
  a.positive = true ∧ a.fromSelf = false ∧ envelope ∈ a.request.envelopes ∧
    ∃ now, a.request.key = mailboxKeyId C recipientIdHex now

/-- A call that succeeds has been acknowledged elsewhere. -/
def Delivery.LeftNode (C : Crypto) (recipientIdHex : String) (x : Delivery) : Prop :=
  x.outcome = .ok () → ∃ envelope ∈ x.envelope, ∃ a ∈ x.acks, a.Elsewhere C recipientIdHex envelope

namespace Network

variable (N : Network)

/-- The tries of the first two tiers, in order. -/
def tries (d : Resolved) (envelope : EncryptedEnvelope) : List Try :=
  ((addrsToDeliver d.candidates (N.targetAddr envelope.recipientId d.targetAddr)).zipIdx.map
      fun a => .direct a.1 a.2) ++
    (if d.candidates.isEmpty then [] else N.punched).zipIdx.map fun a => .punch a.1 a.2

end Network

/-- What is taken for a success of the try. -/
def Try.ack (N : Network) (request : StoreRequest) : Try → Option Ack
  | .direct addr i => N.directAck request addr i
  | .punch _ i => N.punchAck request i

/-- The answer taken for a success is an acknowledgement by another node. -/
def Try.IsOthers (N : Network) (request : StoreRequest) (t : Try) : Prop :=
  ∃ a, t.ack N request = some a ∧ a.positive = true ∧ a.fromSelf = false

/-- Of the tries, the first that is taken for a success is another node's acknowledgement; or none is taken for
one, and another node accepts a list with the envelope as a replica of the mailbox. -/
def Network.Accepts (N : Network) (M : MailboxJson) (request : StoreRequest) (d : Resolved)
    (envelope : EncryptedEnvelope) : Prop :=
  (∃ pre t post, N.tries d envelope = pre ++ t :: post ∧ (∀ t' ∈ pre, t'.ack N request = none) ∧ t.IsOthers N request) ∨
  (∀ t ∈ N.tries d envelope, t.ack N request = none) ∧ envelope ∈ depositEnvelopes M N.mailboxRead envelope ∧
    ∃ c ∈ N.replicas, ∃ a ∈ N.replica c.2, a.payload = .storeAck true ∧ a.fromSelf = false

section LeftNode

variable {C : Crypto} {M : MailboxJson} {N : Network} {request : StoreRequest}

theorem Answer.ack_eq_some {a : Answer} {ack : Ack} : a.ack request = some ack ↔
    a.payload = .storeAck true ∧ ack = ⟨request, true, a.fromSelf⟩ := by
  unfold Answer.ack
  split
  · rename_i h
    rw [Option.some_inj, and_iff_right h, eq_comm]
  · rename_i h
    exact ⟨fun heq => (by cases heq), fun h' => absurd h'.1 h⟩

/-- What an ack is an answer to. -/
theorem Try.request_of_ack {t : Try} {a : Ack} (h : t.ack N request = some a) : a.request = request := by
  have hudp : ∀ {x : Option Answer} {a : Ack}, x.bind (Answer.ack request) = some a → a.request = request := by
    intro x a hx
    obtain ⟨answer, -, ha⟩ := Option.bind_eq_some_iff.1 hx
    rw [(Answer.ack_eq_some.1 ha).2]
  cases t with
  | punch addr i => exact hudp h
  | direct addr i =>
    unfold Try.ack Network.directAck at h
    dsimp only at h
    split at h
    · rename_i ack hack
      cases h
      exact hudp hack
    · split at h
      · obtain ⟨answer, -, rfl⟩ := Option.map_eq_some_iff.1 h
        rfl
      · cases h

theorem Network.mem_replicaAcks {a : Ack} : a ∈ N.replicaAcks request ↔
    ∃ c ∈ N.replicas, ∃ answer ∈ N.replica c.2, answer.payload = .storeAck true ∧
      a = ⟨request, true, answer.fromSelf⟩ := by
  unfold Network.replicaAcks
  rw [List.mem_filterMap]
  refine exists_congr fun c => and_congr_right fun _ => ?_
  rw [Option.bind_eq_some_iff]
  exact exists_congr fun answer => and_congr_right fun _ => Answer.ack_eq_some

theorem Network.mem_put {a : Ack} : a ∈ (N.put request).2 ↔ a ∈ N.replicaAcks request := by
  unfold Network.put
  split
  · rename_i h
    have hnone : N.replicaAcks request = [] := by
      unfold Network.replicaAcks Network.replicas
      rw [List.isEmpty_iff.1 h]
      rfl
    rw [hnone]
  · rfl

/-- The two loops come to the first try that is taken for a success. -/
theorem cascade_eq (r : String) (d : Resolved) (envelope : EncryptedEnvelope) (now later : Nat) :
    cascade (C := C) M N r d envelope now later =
      { outcome := .ok (), envelope := some envelope
        acks := match (N.tries d envelope).findSome? (Try.ack N ⟨mailboxKeyId C r now, [envelope]⟩) with
          | some a => [a]
          | none => (N.put ⟨mailboxKeyId C r later, depositEnvelopes M N.mailboxRead envelope⟩).2 } := by
  unfold cascade Network.tries
  rw [List.findSome?_append, List.findSome?_map, List.findSome?_map]
  let request : StoreRequest := ⟨mailboxKeyId C r now, [envelope]⟩
  have hdirect : (fun a : SocketAddr × Nat => N.directAck request a.1 a.2) =
      Try.ack N request ∘ fun a => Try.direct a.1 a.2 := rfl
  have hpunch : (fun a : SocketAddr × Nat => N.punchAck request a.2) =
      Try.ack N request ∘ fun a => Try.punch a.1 a.2 := rfl
  dsimp only
  rw [hdirect, hpunch]
  cases (addrsToDeliver d.candidates (N.targetAddr envelope.recipientId d.targetAddr)).zipIdx.findSome?
      (Try.ack N request ∘ fun a => Try.direct a.1 a.2) with
  | some ack => rfl
  | none =>
    rw [Option.none_or]
    cases (if d.candidates.isEmpty then [] else N.punched).zipIdx.findSome?
      (Try.ack N request ∘ fun a => Try.punch a.1 a.2) <;> rfl

/-- With an envelope sealed, the call ends well, and so it must have been accepted. -/
theorem cascade_leftNode_iff (r : String) (d : Resolved) (envelope : EncryptedEnvelope) (now later : Nat) :
    (cascade (C := C) M N r d envelope now later).LeftNode C r ↔
      N.Accepts M ⟨mailboxKeyId C r now, [envelope]⟩ d envelope := by
  rw [cascade_eq, Delivery.LeftNode, Network.Accepts]
  constructor
  · intro h
    obtain ⟨envelope', henv, a, ha, hpos, hother, hmem, -⟩ := h rfl
    cases henv
    dsimp only at ha
    split at ha
    · -- the first try taken for a success is the one that answered
      rename_i a' hfirst
      obtain rfl := List.mem_singleton.1 ha
      obtain ⟨pre, t, post, htries, ht, hpre⟩ := List.findSome?_eq_some_iff.1 hfirst
      exact .inl ⟨pre, t, post, htries, hpre, a, ht, hpos, hother⟩
    · -- no try was, and the envelope came by the replicas
      rename_i hnone
      rw [Network.mem_put, Network.mem_replicaAcks] at ha
      obtain ⟨c, hc, answer, hanswer, hack, rfl⟩ := ha
      exact .inr ⟨List.findSome?_eq_none_iff.1 hnone, hmem, c, hc, answer, hanswer, hack, hother⟩
  · rintro h -
    refine ⟨envelope, rfl, ?_⟩
    rcases h with ⟨pre, t, post, htries, hpre, a, ht, hpos, hother⟩ |
      ⟨hnone, hmem, c, hc, answer, hanswer, hack, hother⟩
    · have hfirst := List.findSome?_eq_some_iff.2 ⟨pre, t, post, htries, ht, hpre⟩
      rw [hfirst]
      have hrequest := Try.request_of_ack ht
      refine ⟨a, List.mem_cons_self, hpos, hother, ?_, now, ?_⟩ <;> rw [hrequest]
      exact List.mem_cons_self
    · rw [List.findSome?_eq_none_iff.2 hnone]
      refine ⟨⟨⟨mailboxKeyId C r later, depositEnvelopes M N.mailboxRead envelope⟩, true, answer.fromSelf⟩, ?_, rfl,
        hother, hmem, later, rfl⟩
      rw [Network.mem_put, Network.mem_replicaAcks]
      exact ⟨c, hc, answer, hanswer, hack, rfl⟩

variable (T : PresenceText) (J : PayloadJson) (M N) (me : UserIdentity C)

/-- A call that succeeds was acknowledged elsewhere exactly if, once an envelope is sealed, another node accepts it
before anything else is taken for a success. -/
theorem tryDeliverPayload_leftNode_iff (dht : Dht) (db : MessengerDb) (r : String) (payload : ChatMessagePayload)
    (ephSeed nonce : Bytes) (timestamp : UInt64) (now later : Nat) :
    (tryDeliverPayload T J M me N dht db r payload ephSeed nonce timestamp now later).LeftNode C r ↔
      ∀ d envelope, sealPayload C T J me dht db r payload ephSeed nonce timestamp = .ok (d, envelope) →
        N.Accepts M ⟨mailboxKeyId C r now, [envelope]⟩ d envelope := by
  unfold tryDeliverPayload
  cases hseal : sealPayload C T J me dht db r payload ephSeed nonce timestamp with
  | err e => exact ⟨fun _ d envelope h => (by cases h), fun _ h => by cases h⟩
  | panic => exact ⟨fun _ d envelope h => (by cases h), fun _ h => by cases h⟩
  | ok sealed =>
    obtain ⟨d, envelope⟩ := sealed
    dsimp only
    rw [cascade_leftNode_iff]
    constructor
    · intro h d' envelope' heq
      cases heq
      exact h
    · intro h
      exact h d envelope rfl

end LeftNode

namespace Alone

open NodeX.Sample Sample

def bobContact : SavedContact :=
  { userIdHex := bob.userIdHex, name := "Bob", bio := "", ed25519PubHex := hexString bob.verifyingKey
    x25519PubHex := hexString bob.x25519Public, lastSeenAddr := "203.0.113.9:9000" }

def bobAddr : SocketAddr := ForeignCard.addr

def presenceText : PresenceText where
  parseCard _ := .error "expected value at line 1 column 1"
  printSigned _ := []
  showAddr _ := "203.0.113.9:9000"
  parseAddr s := if s = "203.0.113.9:9000" then some bobAddr else none
  signatureError := "signature error"

/-- JSON as far as one message goes. -/
def payloadJson : PayloadJson where
  print _ := jsonObject [("id", jsonString "m1"), ("text", jsonString "Hello Bob")]
  parse _ := none
  printTombstone _ := []
  utf8Lossy _ := ""

/-- Nobody answers, and no other node is known. -/
def network : Network := { localAddr := ⟨.v4 #v[192, 168, 1, 5], 9000⟩, nodeId := alice.userId }

def delivery : Delivery :=
  tryDeliverPayload presenceText payloadJson mailboxJson alice network (fun _ => .ok none)
    (MessengerDb.addContact {} bobContact) bob.userIdHex { id := "m1", text := "Hello Bob" } (List.replicate 32 1)
    (List.replicate 12 1) 1700000000 1700000000 1700000001

end Alone

open Alone NodeX.Sample in
/-- The call succeeds, though Alice's own storage is the only one that has the envelope. -/
theorem tryDeliverPayload_leftNode_alone :
    delivery.outcome = .ok () ∧ delivery.acks = [] ∧ ¬ delivery.LeftNode .transparent bob.userIdHex := by
  have hok : delivery.outcome = .ok () := by decide +kernel
  have hacks : delivery.acks = [] := by decide +kernel
  refine ⟨hok, hacks, fun h => ?_⟩
  obtain ⟨_, -, a, ha, -⟩ := h hok
  rw [hacks] at ha
  cases ha

end NodeX.Messenger
