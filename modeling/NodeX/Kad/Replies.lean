/-
What a node answers with its routing table. A reply is read as a whole or not at all, so each contact of the table has
to pass the receiver's checks; the table takes what passes its own, which do not ask for the broadcast address.
-/
import NodeX.Kad.Eviction
import NodeX.Kad.Node
import NodeX.Kad.WireRoundTrip

namespace NodeX.Kad

open NodeX.Lib

/-! ## Answers -/

/-- The FIND_NODE branch of the request handler. -/
def findNodeReply (t : RoutingTable) (requestId : UInt64) (targetId : NodeId) : RpcMessage where
  requestId
  senderId := t.localId
  payload := .findNodeResp (t.findClosest targetId bucketSize)

/-- The FIND_VALUE branch: the storage after it, and the answer. -/
def findValueReply (J : ValueJson) (t : RoutingTable) (st : Storage) (requestId : UInt64) (key : NodeId) (now : Nat) :
    Storage × RpcMessage :=
  match handleFindValue J st key now with
  | (st, some value) => (st, { requestId, senderId := t.localId, payload := .findValueResp (some value) [] })
  | (st, none) =>
    (st, { requestId, senderId := t.localId, payload := .findValueResp none (t.findClosest key bucketSize) })

/-- The message is sent, and the receiver reads a message. -/
def Decodable (m : RpcMessage) : Prop := ∃ bytes m', m.encode = .ok bytes ∧ RpcMessage.decode bytes = .ok m'

/-- The answers of a table that list contacts are decodable. -/
def RepliesDecode (t : RoutingTable) : Prop :=
  (∀ requestId targetId, Decodable (findNodeReply t requestId targetId)) ∧
    ∀ J st requestId key now, (handleFindValue J st key now).2 = none →
      Decodable (findValueReply J t st requestId key now).2

/-! ## What is read -/

/-- A list of contacts that fits a message is read exactly if every one of them is accepted. -/
theorem decodable_findNodeResp {requestId : UInt64} {senderId : NodeId} {contacts : List Contact}
    (hlen : contacts.length ≤ maxContacts) :
    Decodable { requestId, senderId, payload := .findNodeResp contacts } ↔ ∀ c ∈ contacts, c.Accepted := by
  constructor
  · rintro ⟨bytes, m', henc, hdec⟩
    obtain ⟨bytes', henc', hdec'⟩ := RpcMessage.decode_encode_of_toCPayload
      (m := { requestId, senderId, payload := .findNodeResp contacts }) rfl
    obtain rfl := Except.ok.inj (henc.symm.trans henc')
    rw [hdec', List.take_of_length_le hlen] at hdec
    change Except.map _ (((contacts.map contactToC).mapM cToContact).map RpcPayload.findNodeResp) = _ at hdec
    cases hrows : (contacts.map contactToC).mapM cToContact with
    | error e =>
      rw [hrows] at hdec
      cases hdec
    | ok cs =>
      intro c hc
      exact accepted_of_mapM hrows _ (List.mem_map_of_mem hc)
  · intro hacc
    obtain ⟨bytes, henc, hdec⟩ := RpcMessage.decode_encode
      (m := { requestId, senderId, payload := .findNodeResp contacts }) ⟨hlen, hacc⟩
    exact ⟨bytes, _, henc, hdec⟩

/-! ## Where contacts are -/

/-- What holds of every table: the buckets' sizes and the contacts' places. -/
structure Housed (t : RoutingTable) : Prop where
  size : ∀ i, (t.buckets.get i).contacts.length ≤ bucketSize
  place : ∀ i, ∀ c ∈ (t.buckets.get i).contacts, t.bucketIndex c.id = i ∧ c.unusable = false

namespace Housed

variable {t : RoutingTable} {b : KBucket} {c : Contact}

theorem setBucket (h : Housed t) {id : NodeId} (hsize : b.contacts.length ≤ bucketSize)
    (hplace : ∀ c' ∈ b.contacts, t.bucketIndex c'.id = t.bucketIndex id ∧ c'.unusable = false) :
    Housed (t.setBucket id b) := by
  constructor
  · intro i
    rw [RoutingTable.get_setBucket]
    split
    · exact hsize
    · exact h.size i
  · intro i
    rw [RoutingTable.get_setBucket]
    split
    · rename_i hi
      rw [hi]
      exact hplace
    · exact h.place i

/-- The node is asked for the contact's own id: all contacts with this id are in one bucket. -/
theorem mem_findClosest (h : Housed t) (hc : c ∈ t.allContacts) : c ∈ t.findClosest c.id bucketSize := by
  refine mem_nearest _ hc ?_
  refine (t.countP_allContacts_le (i := t.bucketIndex c.id) ?_).trans (h.size _)
  intro i c' hc' hle
  rw [← (h.place i c' hc').1, NodeId.eq_of_distance_le (of_decide_eq_true hle)]

theorem mem_findClosest_le {targetId : NodeId} {count : Nat} (h : c ∈ t.findClosest targetId count) :
    c ∈ t.allContacts := mem_of_mem_nearest _ h

theorem length_findClosest_le (t : RoutingTable) (targetId : NodeId) :
    (t.findClosest targetId bucketSize).length ≤ maxContacts := by
  unfold RoutingTable.findClosest
  rw [length_nearest]
  exact Nat.min_le_left _ _

/-- A contact of the table is accepted by a receiver unless it has the broadcast address. -/
theorem accepted_iff (h : Housed t) (hc : c ∈ t.allContacts) : c.Accepted ↔ c.addr.ip.isBroadcast = false := by
  obtain ⟨i, hi⟩ := t.mem_allContacts.1 hc
  have husable := (h.place i c hi).2
  unfold Contact.unusable at husable
  rw [Bool.or_eq_false_iff, Bool.or_eq_false_iff, decide_eq_false_iff_not] at husable
  obtain ⟨⟨hport, hunspecified⟩, hmulticast⟩ := husable
  rw [Contact.accepted_iff]
  constructor
  · rintro ⟨-, -, hbroadcast, -⟩
    exact hbroadcast
  · intro hbroadcast
    exact ⟨hport, hunspecified, hbroadcast, hmulticast⟩

/-- Every answer of a table is decodable exactly if no contact in it has the broadcast address. -/
theorem repliesDecode_iff (h : Housed t) : RepliesDecode t ↔ ∀ c ∈ t.allContacts, c.addr.ip.isBroadcast = false := by
  constructor
  · rintro ⟨hfind, -⟩ c hc
    have hall := (decodable_findNodeResp (length_findClosest_le t c.id)).1 (hfind 0 c.id)
    exact (h.accepted_iff hc).1 (hall c (h.mem_findClosest hc))
  · intro hnone
    have hacc : ∀ targetId, ∀ c ∈ t.findClosest targetId bucketSize, c.Accepted := by
      intro targetId c hc
      have hmem := mem_findClosest_le hc
      exact (h.accepted_iff hmem).2 (hnone c hmem)
    constructor
    · intro requestId targetId
      exact (decodable_findNodeResp (length_findClosest_le t targetId)).2 (hacc targetId)
    · intro J st requestId key now hmiss
      have hreply : (findValueReply J t st requestId key now).2 =
          { requestId, senderId := t.localId, payload := .findValueResp none (t.findClosest key bucketSize) } := by
        unfold findValueReply
        cases hvalue : handleFindValue J st key now with
        | mk st' found =>
          rw [hvalue] at hmiss
          obtain rfl : found = none := hmiss
          rfl
      rw [hreply]
      obtain ⟨bytes, henc, hdec⟩ := RpcMessage.decode_encode
        (m := { requestId, senderId := t.localId, payload := .findValueResp none (t.findClosest key bucketSize) })
        ⟨fun v hv => absurd hv (Option.not_mem_none v), length_findClosest_le t key, hacc key⟩
      exact ⟨bytes, _, henc, hdec⟩

end Housed

/-! ## How contacts get into the table -/

namespace RoutingTable

/-- The table takes a contact it does not know: its bucket has room. -/
def Inserts (t : RoutingTable) (c : Contact) : Prop :=
  c.id ≠ t.localId ∧ c.unusable = false ∧ c.id ∉ (t.bucket c.id).ids ∧ (t.bucket c.id).contacts.length < bucketSize

/-- `force_update` takes the address of a known contact as well. -/
def Replaces (t : RoutingTable) (c : Contact) : Prop :=
  c.id ≠ t.localId ∧ c.unusable = false ∧ c.id ∈ (t.bucket c.id).ids

instance (t : RoutingTable) (c : Contact) : Decidable (t.Inserts c) := inferInstanceAs (Decidable (_ ∧ _))

instance (t : RoutingTable) (c : Contact) : Decidable (t.Replaces c) := inferInstanceAs (Decidable (_ ∧ _))

end RoutingTable

namespace SharedTable

/-- The contact that gets into the table, by its address. -/
def admitted? (s : SharedTable) : TableEvent → Option Contact
  | .received msg srcAddr _ =>
    let contact : Contact := { id := msg.senderId, addr := srcAddr }
    if s.table.Inserts contact then some contact else none
  | .learned contact => if s.table.Inserts contact then some contact else none
  | .verified contact => if s.table.Inserts contact ∨ s.table.Replaces contact then some contact else none
  | .pinged i failed => if failed then (s.evictions[i]?).map Eviction.contact else none

/-- No contact with the broadcast address gets into the table. -/
def NoBroadcast (s : SharedTable) (ev : TableEvent) : Prop :=
  ∀ c ∈ s.admitted? ev, c.addr.ip.isBroadcast = false

instance (s : SharedTable) (ev : TableEvent) : Decidable (s.NoBroadcast ev) :=
  inferInstanceAs (Decidable (∀ c ∈ s.admitted? ev, c.addr.ip.isBroadcast = false))

end SharedTable

/-- `t'` has the contacts of `t`, maybe fewer, and the one that was admitted. -/
structure Brings (t t' : RoutingTable) (admitted : Option Contact) : Prop where
  known : ∀ c ∈ t'.allContacts, c ∈ t.allContacts ∨ admitted = some c
  admitted : ∀ c ∈ admitted, c ∈ t'.allContacts
  housed : Housed t → Housed t'

section Brings

variable {t : RoutingTable} {b : KBucket} {c : Contact}

theorem brings_refl (t : RoutingTable) : Brings t t none where
  known _ hc := .inl hc
  admitted c hc := absurd hc (Option.not_mem_none c)
  housed h := h

theorem mem_setBucket {id : NodeId} : c ∈ (t.setBucket id b).allContacts ↔
    c ∈ b.contacts ∨ ∃ i ≠ t.bucketIndex id, c ∈ (t.buckets.get i).contacts := by
  rw [RoutingTable.mem_allContacts]
  constructor
  · rintro ⟨i, hi⟩
    rw [RoutingTable.get_setBucket] at hi
    split at hi
    · exact .inl hi
    · rename_i hne
      exact .inr ⟨i, hne, hi⟩
  · rintro (hb | ⟨i, hne, hi⟩)
    · refine ⟨t.bucketIndex id, ?_⟩
      rw [RoutingTable.get_setBucket, if_pos rfl]
      exact hb
    · refine ⟨i, ?_⟩
      rw [RoutingTable.get_setBucket, if_neg hne]
      exact hi

/-- A bucket in which nothing is new but the contact at its tail. -/
theorem brings_concat {rest : List Contact} (husable : c.unusable = false) (hrest : rest ⊆ (t.bucket c.id).contacts)
    (hsize : Housed t → rest.length < bucketSize) (hb : b.contacts = rest ++ [c]) :
    Brings t (t.setBucket c.id b) (some c) := by
  have hknown : ∀ c' ∈ b.contacts, c' ∈ (t.bucket c.id).contacts ∨ c' = c := by
    intro c' hc'
    rw [hb, List.mem_append, List.mem_singleton] at hc'
    exact hc'.imp_left fun h => hrest h
  refine ⟨?_, ?_, ?_⟩
  · intro c' hc'
    rcases mem_setBucket.1 hc' with hmem | ⟨i, -, hi⟩
    · rcases hknown c' hmem with hold | rfl
      · exact .inl (t.mem_allContacts.2 ⟨_, hold⟩)
      · exact .inr rfl
    · exact .inl (t.mem_allContacts.2 ⟨i, hi⟩)
  · rintro c' hc'
    obtain rfl : c = c' := Option.some.inj hc'
    exact mem_setBucket.2 (.inl (hb ▸ List.mem_concat_self))
  · intro h
    have hlen := hsize h
    refine h.setBucket ?_ ?_
    · rw [hb, List.length_append, List.length_singleton]
      omega
    · intro c' hmem
      rcases hknown c' hmem with hold | rfl
      · exact h.place _ c' hold
      · exact ⟨rfl, husable⟩

/-- The same contacts in another order. -/
theorem brings_perm (hperm : b.contacts.Perm (t.bucket c.id).contacts) : Brings t (t.setBucket c.id b) none where
  known c' hc' := by
    rcases mem_setBucket.1 hc' with hb | ⟨i, -, hi⟩
    · exact .inl (t.mem_allContacts.2 ⟨_, hperm.mem_iff.1 hb⟩)
    · exact .inl (t.mem_allContacts.2 ⟨i, hi⟩)
  admitted c' hc' := absurd hc' (Option.not_mem_none c')
  housed h := h.setBucket (hperm.length_eq ▸ h.size _) fun c' hb => h.place _ c' (hperm.mem_iff.1 hb)

theorem brings_append (h : t.Inserts c) :
    Brings t (t.setBucket c.id ⟨(t.bucket c.id).contacts ++ [c]⟩) (some c) :=
  brings_concat h.2.1 (List.Subset.refl _) (fun _ => h.2.2.2) rfl

theorem brings_unchanged (t : RoutingTable) (id : NodeId) : Brings t (t.setBucket id (t.bucket id)) none := by
  rw [RoutingTable.setBucket_self]
  exact brings_refl t

theorem brings_update (t : RoutingTable) (c : Contact) :
    Brings t (t.update c).1 (if t.Inserts c then some c else none) := by
  unfold RoutingTable.update
  split
  · rename_i hself
    rw [if_neg fun h => h.1 hself]
    exact brings_refl t
  · rename_i hself
    split
    · rename_i hunusable
      rw [if_neg fun h => by
        rw [h.2.1] at hunusable
        cases hunusable]
      exact brings_refl t
    · rename_i husable
      rcases KBucket.update_cases (t.bucket c.id) c with ⟨hmem, -, hperm⟩ | ⟨hnot, hroom, h⟩ | ⟨-, hfull, o, rest, -, h⟩
      · rw [if_neg fun h => h.2.2.1 hmem]
        exact brings_perm hperm
      · have hinserts : t.Inserts c := ⟨hself, by simpa using husable, hnot, hroom⟩
        rw [if_pos hinserts, h]
        exact brings_append hinserts
      · rw [if_neg fun h => absurd h.2.2.2 (by omega), h]
        exact brings_unchanged t c.id

theorem brings_forceUpdate (t : RoutingTable) (c : Contact) :
    Brings t (t.forceUpdate c).1 (if t.Inserts c ∨ t.Replaces c then some c else none) := by
  unfold RoutingTable.forceUpdate
  split
  · rename_i hself
    rw [if_neg]
    · exact brings_refl t
    · rintro (h | h)
      · exact h.1 hself
      · exact h.1 hself
  · rename_i hself
    split
    · rename_i hunusable
      rw [if_neg]
      · exact brings_refl t
      · rintro (h | h)
        · exact absurd (hunusable.symm.trans h.2.1) (by decide)
        · exact absurd (hunusable.symm.trans h.2.1) (by decide)
    · rename_i hunusable
      have husable : c.unusable = false := by simpa using hunusable
      rcases KBucket.forceUpdate_cases (t.bucket c.id) c with
        ⟨existing, hmem, hid, -, rest, hperm, h⟩ | ⟨hnot, hroom, h⟩ | ⟨hnot, hfull, o, rest, -, h⟩
      · have hids : c.id ∈ (t.bucket c.id).ids := by
          rw [← hid]
          exact List.mem_map_of_mem (hid ▸ hmem)
        have hreplaces : t.Replaces c := ⟨hself, husable, hids⟩
        rw [if_pos (.inr hreplaces)]
        refine brings_concat husable ?_ ?_ h
        · intro c' hrest
          exact hperm.mem_iff.2 (List.mem_cons_of_mem _ hrest)
        · intro hhoused
          have hlen : (t.bucket c.id).contacts.length = rest.length + 1 := hperm.length_eq
          have hsize : (t.bucket c.id).contacts.length ≤ bucketSize := hhoused.size (t.bucketIndex c.id)
          omega
      · have hinserts : t.Inserts c := ⟨hself, husable, hnot, hroom⟩
        rw [if_pos (.inl hinserts), h]
        exact brings_append hinserts
      · rw [if_neg, h]
        · exact brings_unchanged t c.id
        · rintro (h | h)
          · exact absurd h.2.2.2 (by omega)
          · exact hnot h.2.2

theorem brings_replaceOldest (husable : c.unusable = false) : Brings t (t.replaceOldest c) (some c) := by
  refine brings_concat husable ?_ ?_ rfl
  · intro c' htail
    exact List.mem_of_mem_tail htail
  · intro hhoused
    have hsize : (t.bucket c.id).contacts.length ≤ bucketSize := hhoused.size (t.bucketIndex c.id)
    have hpos : 0 < bucketSize := by decide
    rw [List.length_tail]
    omega

end Brings

namespace SharedTable

variable {s : SharedTable}

theorem brings_step (h : s.AllWaiting) (ev : TableEvent) : Brings s.table (s.step ev).table (s.admitted? ev) := by
  cases ev with
  | received msg srcAddr slot =>
    show Brings s.table (s.received msg srcAddr slot).table _
    rw [table_received]
    exact brings_update _ _
  | learned contact => exact brings_update _ _
  | verified contact => exact brings_forceUpdate _ _
  | pinged i failed =>
    show Brings s.table (s.pinged i failed).table (if failed then (s.evictions[i]?).map Eviction.contact else none)
    unfold pinged
    cases he : s.evictions[i]? with
    | none =>
      rw [Option.map_none, ite_self]
      exact brings_refl _
    | some e =>
      cases failed with
      | true => exact brings_replaceOldest (h e (List.mem_of_getElem? he)).usable
      | false => exact brings_refl _

/-- Where no contact has the broadcast address, none has it after a step exactly if none is admitted with it. -/
theorem repliesDecode_step (hhoused : Housed s.table) (hwait : s.AllWaiting)
    (hnone : ∀ c ∈ s.table.allContacts, c.addr.ip.isBroadcast = false) (ev : TableEvent) :
    RepliesDecode (s.step ev).table ↔ s.NoBroadcast ev := by
  have hbrings := brings_step hwait ev
  rw [(hbrings.housed hhoused).repliesDecode_iff]
  constructor
  · intro h c hc
    exact h c (hbrings.admitted c hc)
  · intro h c hc
    rcases hbrings.known c hc with hold | hnew
    · exact hnone c hold
    · exact h c hnew

theorem housed_new (localId : NodeId) : Housed { localId } ∧ ({ localId } : RoutingTable).allContacts = [] := by
  have hempty : ∀ i, (({ localId } : RoutingTable).buckets.get i).contacts = [] := by
    intro i
    show ((Vector.replicate numBuckets ({} : KBucket))[i.val]).contacts = []
    rw [Vector.getElem_replicate]
  refine ⟨⟨?_, ?_⟩, ?_⟩
  · intro i
    rw [hempty]
    exact Nat.zero_le _
  · intro i c hc
    rw [hempty] at hc
    cases hc
  · rw [List.eq_nil_iff_forall_not_mem]
    intro c hc
    obtain ⟨i, hi⟩ := RoutingTable.mem_allContacts _ |>.1 hc
    rw [hempty] at hi
    cases hi

theorem housed_run (localId : NodeId) (evs : List TableEvent) :
    Housed (run step { table := { localId } } evs).table := by
  have hwait : AllWaiting { table := { localId } } := List.forall_mem_nil _
  have hstep : ∀ (s : SharedTable) ev, Housed s.table ∧ s.AllWaiting →
      Housed (s.step ev).table ∧ (s.step ev).AllWaiting :=
    fun s ev h => ⟨(brings_step h.2 ev).housed h.1, h.2.step ev⟩
  exact (run_induction hstep evs ⟨(housed_new localId).1, hwait⟩).1

/-- Every answer of a node is decodable after every step of a run, exactly if no step admits a contact with the
broadcast address. -/
theorem run_repliesDecode_iff (localId : NodeId) (evs : List TableEvent) :
    Steps step (fun s ev => RepliesDecode (s.step ev).table) { table := { localId } } evs ↔
      Steps step NoBroadcast { table := { localId } } evs := by
  obtain ⟨hhoused, hnil⟩ := housed_new localId
  refine steps_iff_of_invariant (I := fun s => Housed s.table ∧ s.AllWaiting ∧
    ∀ c ∈ s.table.allContacts, c.addr.ip.isBroadcast = false) ?_ ?_ evs ⟨hhoused, ?_, ?_⟩
  · intro s ev h
    exact repliesDecode_step h.1 h.2.1 h.2.2 ev
  · intro s ev h hdecode
    have hhoused' := (brings_step h.2.1 ev).housed h.1
    exact ⟨hhoused', h.2.1.step ev, hhoused'.repliesDecode_iff.1 hdecode⟩
  · intro e he
    cases he
  · rw [hnil]
    exact List.forall_mem_nil _

section Sample

open RoutingTable

/-- A verified presence card with the broadcast address. -/
def broadcastCard : TableEvent :=
  .verified { id := (farContact 1).id, addr := { ip := .v4 #v[255, 255, 255, 255], port := 9000 } }

/-- The node knows a usable contact too, and still no answer of it that lists contacts can be read. -/
theorem run_repliesDecode_broadcastCard :
    ¬RepliesDecode (run step { table := { localId := zeroId } } [.learned (farContact 2), broadcastCard]).table := by
  rw [(housed_run _ _).repliesDecode_iff]
  decide +kernel

end Sample

end SharedTable

end NodeX.Kad
