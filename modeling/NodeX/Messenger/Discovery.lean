/-
Runs of `discover_peer`: what a verified card puts into the contact list and into the routing table, and when a card
older than one already applied takes the place of its keys or its address.
-/
import NodeX.Kad.Replies
import NodeX.Messenger.Presence

namespace NodeX

open NodeX.Lib

/-! ## An id in the routing table -/

namespace Kad.RoutingTable

def contact? (t : RoutingTable) (id : NodeId) : Option Contact := lookupKey Contact.id id (t.bucket id).contacts

/-- What `force_update` puts into the table. -/
def Takes (t : RoutingTable) (c : Contact) : Prop := t.Inserts c ∨ t.Replaces c

/-- The table has a contact as it is, or does not take it. -/
def Settled (t : RoutingTable) (c : Contact) : Prop := t.contact? c.id = some c ∨ ¬t.Takes c

variable {t : RoutingTable} {c c' : Contact} {id : NodeId}

theorem contact?_setBucket (id' : NodeId) (b : KBucket) : (t.setBucket id' b).contact? id =
    if t.bucketIndex id = t.bucketIndex id' then lookupKey Contact.id id b.contacts else t.contact? id := by
  show lookupKey Contact.id id ((t.setBucket id' b).buckets.get (t.bucketIndex id)).contacts = _
  rw [get_setBucket]
  split
  · rfl
  · rfl

theorem mem_ids_iff : c.id ∈ (t.bucket c.id).ids ↔ t.contact? c.id ≠ none := by
  rw [contact?, Ne, ← KBucket.not_mem_ids, not_not]

theorem lookupKey_concat (id : NodeId) (l : List Contact) (c : Contact) : lookupKey Contact.id id (l ++ [c]) =
    (lookupKey Contact.id id l).or (if c.id = id then some c else none) := by
  unfold lookupKey
  rw [List.find?_append]
  by_cases h : c.id = id
  · simp [h]
  · simp [h]

theorem takes_iff : t.Takes c ↔ c.id ≠ t.localId ∧ c.unusable = false ∧
    (t.contact? c.id ≠ none ∨ (t.bucket c.id).contacts.length < bucketSize) := by
  unfold Takes Inserts Replaces
  rw [← mem_ids_iff]
  by_cases h : c.id ∈ (t.bucket c.id).ids
  · simp [h]
  · simp [h]

/-- In a bucket without an id twice, `force_update` changes what is known of one id, and only if it is known or there
is room. -/
theorem lookupKey_forceUpdate {b : KBucket} (hnodup : KeysNodup Contact.id b.contacts) (c : Contact) (id : NodeId) :
    lookupKey Contact.id id (b.forceUpdate c).1.contacts =
      if c.id = id ∧ (lookupKey Contact.id c.id b.contacts ≠ none ∨ b.contacts.length < bucketSize) then some c
      else lookupKey Contact.id id b.contacts := by
  unfold KBucket.forceUpdate
  cases hfound : lookupKey Contact.id c.id b.contacts with
  | some existing =>
    dsimp only
    rw [lookupKey_concat, lookupKey_eraseKey Contact.id hnodup]
    by_cases hid : c.id = id
    · simp [hid]
    · simp [hid]
  | none =>
    cases hcontacts : b.contacts with
    | nil =>
      have hroom : 0 < bucketSize := by decide
      by_cases hid : c.id = id
      · simp [hid, lookupKey, hroom]
      · simp [hid, lookupKey]
    | cons oldest rest =>
      rw [hcontacts] at hfound
      dsimp only
      by_cases hroom : (oldest :: rest).length < bucketSize
      · rw [if_pos hroom, lookupKey_concat]
        by_cases hid : c.id = id
        · rw [← hid, hfound, if_pos rfl, if_pos ⟨rfl, .inr hroom⟩]
          rfl
        · simp [hid]
      · rw [if_neg hroom, if_neg, hcontacts]
        rintro ⟨-, hnone | hlt⟩
        · exact hnone rfl
        · exact hroom hlt

/-- `force_update` changes what is known of one id, and only where it takes the contact. -/
theorem contact?_forceUpdate (h : t.WellFormed) (c : Contact) (id : NodeId) [Decidable (t.Takes c)] :
    (t.forceUpdate c).1.contact? id = if c.id = id ∧ t.Takes c then some c else t.contact? id := by
  have hnodup : KeysNodup Contact.id (t.bucket c.id).contacts := (h (t.bucketIndex c.id)).nodup
  unfold forceUpdate
  split
  · rename_i hself
    rw [if_neg fun hid => (takes_iff.1 hid.2).1 hself]
  · rename_i hself
    split
    · rename_i hunusable
      rw [if_neg fun hid => absurd (hunusable.symm.trans (takes_iff.1 hid.2).2.1) (by decide)]
    · rename_i hunusable
      have htakes : t.Takes c ↔ t.contact? c.id ≠ none ∨ (t.bucket c.id).contacts.length < bucketSize :=
        takes_iff.trans (by simp [hself, hunusable])
      dsimp only
      rw [contact?_setBucket]
      by_cases hplace : t.bucketIndex id = t.bucketIndex c.id
      · have hcontact : t.contact? id = lookupKey Contact.id id (t.bucket c.id).contacts := by
          unfold contact? bucket
          rw [hplace]
        rw [if_pos hplace, hcontact, lookupKey_forceUpdate hnodup]
        simp only [htakes]
        rfl
      · rw [if_neg hplace, if_neg]
        rintro ⟨rfl, -⟩
        exact hplace rfl

theorem contact?_forceUpdate_of_settled (h : t.WellFormed) (hc : t.Settled c) (id : NodeId) :
    (t.forceUpdate c).1.contact? id = t.contact? id := by
  classical
  rw [contact?_forceUpdate h]
  split
  · rename_i hid
    obtain ⟨rfl, htakes⟩ := hid
    exact (hc.resolve_right (not_not.2 htakes)).symm
  · rfl

/-- The id, the address and what is known of the id decide whether a contact is taken. -/
theorem takes_forceUpdate (h : t.WellFormed) (hne : c'.id ≠ c.id) (ht : (t.forceUpdate c').1.Takes c) : t.Takes c := by
  classical
  have hkept := SharedTable.kept_forceUpdate t c'
  obtain ⟨hself, husable, hroom⟩ := takes_iff.1 ht
  rw [hkept.1] at hself
  rw [contact?_forceUpdate h, if_neg fun hid => hne hid.1] at hroom
  exact takes_iff.2 ⟨hself, husable, hroom.imp_right fun hlt => (hkept.2 c.id).trans_lt hlt⟩

theorem Settled.forceUpdate (h : t.WellFormed) (hc : t.Settled c) (hne : c'.id ≠ c.id) :
    (t.forceUpdate c').1.Settled c := by
  classical
  rcases hc with hknown | hnot
  · left
    rw [contact?_forceUpdate h, if_neg fun hid => hne hid.1, hknown]
  · right
    intro ht
    exact hnot (takes_forceUpdate h hne ht)

/-- After its own `force_update` a contact is settled. -/
theorem settled_forceUpdate_self (h : t.WellFormed) (c : Contact) : (t.forceUpdate c).1.Settled c := by
  classical
  by_cases htakes : t.Takes c
  · left
    rw [contact?_forceUpdate h, if_pos ⟨rfl, htakes⟩]
  · right
    have hkept := SharedTable.kept_forceUpdate t c
    rw [takes_iff, hkept.1, contact?_forceUpdate h, if_neg fun hid => htakes hid.2]
    rintro ⟨hself, husable, hroom⟩
    exact htakes (takes_iff.2 ⟨hself, husable, hroom.imp_right fun hlt => (hkept.2 c.id).trans_lt hlt⟩)

end Kad.RoutingTable

namespace Messenger

open Kad

variable (C : Crypto) (T : PresenceText)

/-! ## Calls of `discover_peer` -/

/-- What a client knows of its peers. Nothing but calls of `discover_peer` changes it here. -/
structure Directory where
  db : MessengerDb
  table : RoutingTable
  wellFormed : table.WellFormed

/-- A call, with what the DHT holds at the time. -/
structure DiscoverCall where
  userIdHex : String
  dht : Dht

/-- The id `discover_peer` puts a card's address under. -/
def UserPresenceCard.contact (card : UserPresenceCard) : Contact :=
  ⟨NodeId.fromKey C card.ed25519Pub, card.socketAddr⟩

namespace Directory

/-- `discover_peer` with the routing table. -/
def discover (s : Directory) (call : DiscoverCall) : Directory :=
  match discoverPeer C T call.dht s.db call.userIdHex with
  | (db, .ok card) => ⟨db, (s.table.forceUpdate (card.contact C)).1, s.wellFormed.forceUpdate _⟩
  | (db, .error _) => { s with db }

/-- The keys and the address saved with a contact, and its address in the routing table. -/
structure Stored where
  saved : Option (String × String × String)
  addr : Option SocketAddr
deriving DecidableEq

def stored (s : Directory) (user : UserPresenceCard) : Stored where
  saved := (s.db.contacts.lookup user.userIdHex).map fun c => (c.ed25519PubHex, c.x25519PubHex, c.lastSeenAddr)
  addr := (s.table.contact? (NodeId.fromKey C user.ed25519Pub)).map (·.addr)

end Directory

/-- The card in what the DHT answers to a call, if it is one and verifies. -/
def DiscoverCall.card? (call : DiscoverCall) : Option UserPresenceCard :=
  match call.dht (presenceKey C call.userIdHex) with
  | .ok (some bytes) =>
    match T.parseCard bytes with
    | .ok card => if (card.verifySignature C T).isOk then some card else none
    | .error _ => none
  | _ => none

variable {C T}

/-- `discover_peer` saves and returns that card, and changes nothing if there is none. -/
theorem discoverPeer_card? (call : DiscoverCall) (db : MessengerDb) :
    match call.card? C T with
    | some card => discoverPeer C T call.dht db call.userIdHex = (db.addContact (contactOfCard T db card), .ok card)
    | none => ∃ e, discoverPeer C T call.dht db call.userIdHex = (db, .error e) := by
  unfold DiscoverCall.card? discoverPeer
  rcases call.dht (presenceKey C call.userIdHex) with e | _ | bytes
  · exact ⟨e, rfl⟩
  · exact ⟨_, rfl⟩
  · dsimp only
    cases T.parseCard bytes with
    | error e => exact ⟨_, rfl⟩
    | ok card =>
      dsimp only
      cases hv : card.verifySignature C T with
      | ok u =>
        rw [(checkCard_ok C T).2 hv]
        rfl
      | error e =>
        cases hc : checkCard C T card with
        | ok u => cases hv.symm.trans ((checkCard_ok C T).1 hc)
        | error e' => exact ⟨e', rfl⟩

theorem card?_eq_some {call : DiscoverCall} {card : UserPresenceCard} : call.card? C T = some card ↔
    ∃ bytes, call.dht (presenceKey C call.userIdHex) = .ok (some bytes) ∧ T.parseCard bytes = .ok card ∧
      card.verifySignature C T = .ok () := by
  have hcall := discoverPeer_card? (C := C) (T := T) call {}
  have hok : (discoverPeer C T call.dht {} call.userIdHex).2 = .ok card ↔ _ := discoverPeer_ok C T
  rw [← hok]
  cases hc : call.card? C T with
  | none =>
    rw [hc] at hcall
    obtain ⟨e, he⟩ := hcall
    rw [he]
    simp
  | some card' =>
    rw [hc] at hcall
    dsimp only at hcall
    rw [hcall]
    simp

theorem verifySignature_of_card? {call : DiscoverCall} {card : UserPresenceCard} (h : call.card? C T = some card) :
    card.verifySignature C T = .ok () := by
  obtain ⟨-, -, -, hv⟩ := card?_eq_some.1 h
  exact hv

theorem discover_of_some {s : Directory} {call : DiscoverCall} {card : UserPresenceCard}
    (h : call.card? C T = some card) : s.discover C T call =
      ⟨s.db.addContact (contactOfCard T s.db card), (s.table.forceUpdate (card.contact C)).1,
        s.wellFormed.forceUpdate _⟩ := by
  have hcall := discoverPeer_card? (C := C) (T := T) call s.db
  rw [h] at hcall
  unfold Directory.discover
  rw [hcall]

theorem discover_of_none {s : Directory} {call : DiscoverCall} (h : call.card? C T = none) :
    s.discover C T call = s := by
  have hcall := discoverPeer_card? (C := C) (T := T) call s.db
  rw [h] at hcall
  obtain ⟨e, he⟩ := hcall
  unfold Directory.discover
  rw [he]

/-! ## Rollback -/

section Rollback

variable (C T)

/-- The cards some calls came to. -/
def cards (calls : List DiscoverCall) : List UserPresenceCard := calls.filterMap (·.card? C T)

/-- The card of a user that came last. -/
def latest (user : String) (cs : List UserPresenceCard) : Option UserPresenceCard :=
  cs.reverse.find? fun card => card.userIdHex = user

/-- No card takes the place of a newer one: where a call comes to a card of a user of whom a card with a later timestamp
was applied before, the keys and addresses stored for the user stay as they are. -/
def NoRollback (s : Directory) (calls : List DiscoverCall) : Prop :=
  ∀ pre call post, calls = pre ++ call :: post → ∀ card newer, call.card? C T = some card →
    newer ∈ cards C T pre → newer.userIdHex = card.userIdHex → card.timestamp < newer.timestamp →
      (run (Directory.discover C T) s (pre ++ [call])).stored C card =
        (run (Directory.discover C T) s pre).stored C card

/-- A card with the keys and the address of another. -/
def Agrees (card last : UserPresenceCard) : Prop :=
  card.ed25519Pub = last.ed25519Pub ∧ card.x25519Pub = last.x25519Pub ∧ card.socketAddr = last.socketAddr

instance (card last : UserPresenceCard) : Decidable (Agrees card last) := inferInstanceAs (Decidable (_ ∧ _))

/-- A card that comes after a newer one of its user has the keys and the address of the one that came last. -/
def StaleAgrees (calls : List DiscoverCall) : Prop :=
  ∀ pre call post, calls = pre ++ call :: post → ∀ card newer, call.card? C T = some card →
    newer ∈ cards C T pre → newer.userIdHex = card.userIdHex → card.timestamp < newer.timestamp →
      ∀ last, latest card.userIdHex (cards C T pre) = some last → Agrees card last

variable {C T}

theorem cards_concat (calls : List DiscoverCall) (call : DiscoverCall) :
    cards C T (calls ++ [call]) = cards C T calls ++ (call.card? C T).toList := by
  unfold cards
  rw [List.filterMap_append]
  cases h : call.card? C T with
  | none => simp [h]
  | some card => simp [h]

theorem latest_concat (user : String) (cs : List UserPresenceCard) (card : UserPresenceCard) :
    latest user (cs ++ [card]) = if card.userIdHex = user then some card else latest user cs := by
  unfold latest
  rw [List.reverse_append, List.reverse_singleton, List.singleton_append, List.find?_cons]
  by_cases h : card.userIdHex = user
  · simp [h]
  · simp [h]

theorem latest_ne_none {user : String} {cs : List UserPresenceCard} {card : UserPresenceCard} (h : card ∈ cs)
    (huser : card.userIdHex = user) : ∃ last, latest user cs = some last := by
  cases hlast : latest user cs with
  | some last => exact ⟨last, rfl⟩
  | none =>
    refine absurd huser ?_
    have hnone := List.find?_eq_none.1 hlast card (List.mem_reverse.2 h)
    simpa using hnone

theorem userIdHex_of_latest {user : String} {cs : List UserPresenceCard} {last : UserPresenceCard}
    (h : latest user cs = some last) : last.userIdHex = user ∧ last ∈ cs := by
  have hmem := List.mem_of_find?_eq_some h
  have huser := List.find?_some h
  exact ⟨by simpa using huser, List.mem_reverse.1 hmem⟩

theorem verifySignature_of_mem {calls : List DiscoverCall} {card : UserPresenceCard} (h : card ∈ cards C T calls) :
    card.verifySignature C T = .ok () := by
  obtain ⟨call, -, hcall⟩ := List.mem_filterMap.1 h
  exact verifySignature_of_card? hcall

/-- Cards of two users go under different ids, cards of one user under one. -/
theorem fromKey_eq_iff {card card' : UserPresenceCard} (h : card.verifySignature C T = .ok ())
    (h' : card'.verifySignature C T = .ok ()) :
    NodeId.fromKey C card.ed25519Pub = NodeId.fromKey C card'.ed25519Pub ↔ card.userIdHex = card'.userIdHex := by
  rw [card.userIdHex_of_verifySignature C T h, card'.userIdHex_of_verifySignature C T h', NodeId.toHex_inj]

/-- What is stored for the user of a card: the card itself, as far as the routing table takes it. -/
structure Shows (T : PresenceText) (s : Directory) (last : UserPresenceCard) : Prop where
  saved : (s.db.contacts.lookup last.userIdHex).map (fun c => (c.ed25519PubHex, c.x25519PubHex, c.lastSeenAddr)) =
    some (hexString last.ed25519Pub, hexString last.x25519Pub, T.showAddr last.socketAddr)
  settled : s.table.Settled (last.contact C)

/-- What one card does: its own user shows it, the others show what they did. -/
theorem shows_discover {s : Directory} {call : DiscoverCall} {card : UserPresenceCard}
    (h : call.card? C T = some card) : Shows (C := C) T (s.discover C T call) card ∧
      ∀ last, last.verifySignature C T = .ok () → last.userIdHex ≠ card.userIdHex → Shows (C := C) T s last →
        Shows (C := C) T (s.discover C T call) last := by
  rw [discover_of_some h]
  constructor
  · refine ⟨?_, RoutingTable.settled_forceUpdate_self s.wellFormed _⟩
    show ((s.db.contacts.insert card.userIdHex (contactOfCard T s.db card)).lookup card.userIdHex).map _ = _
    rw [Finmap.lookup_insert]
    rfl
  · intro last hverified hne hshows
    refine ⟨?_, hshows.settled.forceUpdate s.wellFormed ?_⟩
    · show ((s.db.contacts.insert card.userIdHex (contactOfCard T s.db card)).lookup last.userIdHex).map _ = _
      rw [Finmap.lookup_insert_of_ne _ hne]
      exact hshows.saved
    · intro hid
      exact hne ((fromKey_eq_iff (verifySignature_of_card? h) hverified).1 hid).symm

/-- After a run every user shows the card that came last. -/
theorem shows_run (s : Directory) (calls : List DiscoverCall) : ∀ user last,
    latest user (cards C T calls) = some last → Shows (C := C) T (run (Directory.discover C T) s calls) last := by
  induction calls using List.reverseRecOn with
  | nil =>
    intro user last h
    cases h
  | append_singleton calls call ih =>
    intro user last h
    rw [run_concat]
    rw [cards_concat] at h
    cases hcall : call.card? C T with
    | none =>
      rw [hcall, Option.toList_none, List.append_nil] at h
      rw [discover_of_none hcall]
      exact ih user last h
    | some card =>
      rw [hcall, Option.toList_some, latest_concat] at h
      obtain ⟨hself, hother⟩ := shows_discover (s := run (Directory.discover C T) s calls) hcall
      split at h
      · obtain rfl := Option.some.inj h
        exact hself
      · rename_i hne
        obtain ⟨huser, hmem⟩ := userIdHex_of_latest h
        refine hother last (verifySignature_of_mem hmem) ?_ (ih user last h)
        rw [huser]
        exact Ne.symm hne

/-- Where a user shows one card, another of the same user leaves all as it is exactly when it agrees with it. -/
theorem stored_discover_iff (hshow : Function.Injective T.showAddr) {s : Directory} {call : DiscoverCall}
    {card last : UserPresenceCard} (hcall : call.card? C T = some card) (hshows : Shows (C := C) T s last)
    (huser : last.userIdHex = card.userIdHex) :
    (s.discover C T call).stored C card = s.stored C card ↔ Agrees card last := by
  obtain ⟨hself, -⟩ := shows_discover (s := s) hcall
  have hsaved := hshows.saved
  rw [huser] at hsaved
  constructor
  · intro h
    have hfields := congrArg Directory.Stored.saved h
    unfold Directory.stored at hfields
    rw [hself.saved, hsaved, Option.some.injEq, Prod.mk.injEq, Prod.mk.injEq, hexString_inj, hexString_inj] at hfields
    exact ⟨hfields.1, hfields.2.1, hshow hfields.2.2⟩
  · rintro ⟨hed, hx, haddr⟩
    have hcontact : card.contact C = last.contact C := by
      unfold UserPresenceCard.contact
      rw [hed, haddr]
    have hknown : (s.discover C T call).table.contact? (NodeId.fromKey C card.ed25519Pub) =
        s.table.contact? (NodeId.fromKey C card.ed25519Pub) := by
      rw [discover_of_some hcall]
      refine RoutingTable.contact?_forceUpdate_of_settled s.wellFormed ?_ _
      rw [hcontact]
      exact hshows.settled
    unfold Directory.stored
    rw [hself.saved, hsaved, hknown, hed, hx, haddr]

/-- Presence does not roll back in a run exactly when every card that comes after a newer one of its user agrees with
the card of the user that came last: the timestamps are signed and not read. -/
theorem discover_noRollback_iff (hshow : Function.Injective T.showAddr) (s : Directory) (calls : List DiscoverCall) :
    NoRollback C T s calls ↔ StaleAgrees C T calls := by
  have hstep : ∀ (pre : List DiscoverCall) (call : DiscoverCall) (card last : UserPresenceCard),
      call.card? C T = some card → latest card.userIdHex (cards C T pre) = some last →
      ((run (Directory.discover C T) s (pre ++ [call])).stored C card =
        (run (Directory.discover C T) s pre).stored C card ↔ Agrees card last) := by
    intro pre call card last hcall hlast
    obtain ⟨huser, -⟩ := userIdHex_of_latest hlast
    rw [run_concat]
    exact stored_discover_iff hshow hcall (shows_run s pre _ last hlast) huser
  constructor
  · intro h pre call post hcalls card newer hcall hnewer huser htime last hlast
    exact (hstep pre call card last hcall hlast).1 (h pre call post hcalls card newer hcall hnewer huser htime)
  · intro h pre call post hcalls card newer hcall hnewer huser htime
    obtain ⟨last, hlast⟩ := latest_ne_none hnewer huser
    exact (hstep pre call card last hcall hlast).2
      (h pre call post hcalls card newer hcall hnewer huser htime last hlast)

end Rollback

/-! ## An old card stored again -/

namespace OldCard

open NodeX.Sample

/-- JSON of what a card signs, when its texts need no escapes. -/
def printSigned : String × String × String × Bytes × Bytes × SocketAddr × List SocketAddr × NatCategory × UInt64 →
    Bytes
  | (userIdHex, displayName, bio, ed25519Pub, x25519Pub, socketAddr, endpoints, _, timestamp) =>
    jsonArray [jsonString userIdHex, jsonString displayName, jsonString bio, jsonBytes ed25519Pub,
      jsonBytes x25519Pub, jsonString socketAddr.display, jsonArray (endpoints.map fun a => jsonString a.display),
      jsonString "Unknown", utf8 (toString timestamp.toNat)]

def oldAddr : SocketAddr := ⟨.v4 #v[198, 51, 100, 7], 9000⟩

def newAddr : SocketAddr := ⟨.v4 #v[203, 0, 113, 7], 9000⟩

def addrBytes (a : SocketAddr) : Bytes :=
  match a.ip with
  | .v4 octets => 4 :: (octets.toList ++ toBe 2 a.port.toNat)
  | .v6 octets => 6 :: (octets.toList ++ toBe 2 a.port.toNat)

/-- `Display` of the two addresses, and some other text for every other one. -/
def showAddr (a : SocketAddr) : String :=
  if a = oldAddr then "198.51.100.7:9000" else if a = newAddr then "203.0.113.7:9000" else hexString (addrBytes a)

def unsigned : PresenceText :=
  { parseCard := fun _ => .error "EOF while parsing a value at line 1 column 0", printSigned, showAddr
    parseAddr := fun _ => none, signatureError := "signature error" }

def cardAt (addr : SocketAddr) (timestamp : UInt64) : UserPresenceCard :=
  .createWithEndpoints .transparent unsigned bob "Bob" "" addr [addr] .unknown timestamp

/-- What Bob published before he moved. -/
def old : UserPresenceCard := cardAt oldAddr 1700000000

def new : UserPresenceCard := cardAt newAddr 1700086400

def cardText (card : UserPresenceCard) : Bytes :=
  jsonObject [("user_id_hex", jsonString card.userIdHex), ("display_name", jsonString card.displayName),
    ("bio", jsonString card.bio), ("ed25519_pub", jsonBytes card.ed25519Pub),
    ("x25519_pub", jsonBytes card.x25519Pub), ("socket_addr", jsonString card.socketAddr.display),
    ("endpoints", jsonArray (card.endpoints.map fun a => jsonString a.display)),
    ("nat_category", jsonString "Unknown"), ("timestamp", utf8 (toString card.timestamp.toNat)),
    ("signature", jsonBytes card.signature)]

def text : PresenceText :=
  { unsigned with
    parseCard := fun bs =>
      if bs = cardText old then .ok old
      else if bs = cardText new then .ok new
      else .error "expected value at line 1 column 1" }

/-- Bob's presence key has a card. -/
def call (card : UserPresenceCard) : DiscoverCall where
  userIdHex := bob.userIdHex
  dht key := if key = presenceKey .transparent bob.userIdHex then .ok (some (cardText card)) else .ok none

def start : Directory := ⟨{}, { localId := alice.userId }, RoutingTable.wellFormed_new _⟩

theorem cards_verify :
    old.verifySignature .transparent text = .ok () ∧ new.verifySignature .transparent text = .ok () := by
  decide +kernel

theorem cardText_ne : cardText new ≠ cardText old := by
  decide +kernel

theorem card?_old : (call old).card? .transparent text = some old :=
  card?_eq_some.2 ⟨cardText old, by simp only [call, if_true], by simp only [text, if_true], cards_verify.1⟩

theorem card?_new : (call new).card? .transparent text = some new :=
  card?_eq_some.2 ⟨cardText new, by simp only [call, if_true], by simp only [text, if_true, if_neg cardText_ne],
    cards_verify.2⟩

theorem addrBytes_inj {a b : SocketAddr} (h : addrBytes a = addrBytes b) : a = b := by
  obtain ⟨ipA, portA⟩ := a
  obtain ⟨ipB, portB⟩ := b
  have hport : ∀ {m n : UInt16}, toBe 2 m.toNat = toBe 2 n.toNat → m = n := by
    intro m n hmn
    have hm := beNat_toBe 2 m.toNat
    rw [hmn, beNat_toBe] at hm
    have hlt := m.toNat_lt
    have hlt' := n.toNat_lt
    exact UInt16.toNat_inj.1 (by omega)
  unfold addrBytes at h
  cases ipA with
  | v4 octets =>
    cases ipB with
    | v4 octets' =>
      obtain ⟨hoctets, hports⟩ := List.append_inj (List.cons.inj h).2 (by simp)
      rw [Vector.toList_inj.1 hoctets, show portA = portB from hport hports]
    | v6 octets' => exact absurd (List.cons.inj h).1 (by decide)
  | v6 octets =>
    cases ipB with
    | v4 octets' => exact absurd (List.cons.inj h).1 (by decide)
    | v6 octets' =>
      obtain ⟨hoctets, hports⟩ := List.append_inj (List.cons.inj h).2 (by simp)
      rw [Vector.toList_inj.1 hoctets, show portA = portB from hport hports]

theorem hexString_ne {s : String} (h : (hexPairs (utf8 s)).isOk = false) (bs : Bytes) : hexString bs ≠ s := by
  rintro rfl
  rw [hexPairs_hexString] at h
  cases h

theorem showAddr_injective : Function.Injective showAddr := by
  have hold := hexString_ne (s := "198.51.100.7:9000") (by decide)
  have hnew := hexString_ne (s := "203.0.113.7:9000") (by decide)
  intro a b h
  unfold showAddr at h
  split at h
  · rename_i ha
    split at h
    · rename_i hb
      exact ha.trans hb.symm
    · split at h
      · exact absurd h (by decide)
      · exact absurd h.symm (hold _)
  · split at h
    · rename_i ha
      split at h
      · exact absurd h (by decide)
      · split at h
        · rename_i hb
          exact ha.trans hb.symm
        · exact absurd h.symm (hnew _)
    · split at h
      · exact absurd h (hold _)
      · split at h
        · exact absurd h (hnew _)
        · exact addrBytes_inj (hexString_inj.1 h)

end OldCard

open OldCard in
/-- Where Bob's cards come in the order of their timestamps, nothing rolls back. -/
theorem discover_noRollback_newer : NoRollback .transparent text start [call old, call new] := by
  refine (discover_noRollback_iff showAddr_injective start [call old, call new]).2 ?_
  intro pre c post hcalls card newer hcard hnewer huser htime
  rcases pre with _ | ⟨first, _ | ⟨second, rest⟩⟩
  · cases hnewer
  · simp only [List.singleton_append, List.cons.injEq] at hcalls
    obtain ⟨rfl, rfl, -⟩ := hcalls
    obtain rfl : new = card := Option.some.inj (card?_new.symm.trans hcard)
    obtain ⟨c, hc, hnewer⟩ := List.mem_filterMap.1 hnewer
    obtain rfl := List.mem_singleton.1 hc
    obtain rfl : old = newer := Option.some.inj (card?_old.symm.trans hnewer)
    exact absurd htime (by decide)
  · simp at hcalls

open OldCard in
/-- Anyone stores Bob's old card under his presence key again: his old address takes the place of the new one. -/
theorem discover_rollback : ¬NoRollback .transparent text start [call new, call old] := by
  intro h
  have hmem : new ∈ cards .transparent text [call new] := List.mem_filterMap.2 ⟨_, List.mem_singleton_self _, card?_new⟩
  have hstored := h [call new] (call old) [] rfl old new card?_old hmem rfl (by decide)
  rw [run_concat, run_cons, run_nil] at hstored
  have hshows := (shows_discover (s := start) card?_new).1
  have hagrees := (stored_discover_iff showAddr_injective card?_old hshows rfl).1 hstored
  exact absurd hagrees.2.2 (by decide)

end Messenger

end NodeX
