/-
`node.rs`: the contacts a node knows, in buckets by the prefix their ids share with its own. A bucket is a list from
the contact not heard of for the longest time to the one heard of last. When a contact was last seen is left out: the
places in the lists say all that is read of it.
-/
import NodeX.Core.Buffer
import NodeX.Kad.Wire
import NodeX.Lib.Keyed
import NodeX.Lib.Nearest
import NodeX.Lib.Runs

namespace NodeX

open NodeX.Lib

/-! ## Distances -/

/-- `u8::leading_zeros`. -/
def leadingZeros (b : UInt8) : Nat := if b = 0 then 8 else 7 - Nat.log2 b.toNat

/-- `ffi_shared_prefix_bits`. -/
def ffiSharedPrefixBits : Bytes → Bytes → Nat
  | x :: xs, y :: ys => if x ^^^ y = 0 then 8 + ffiSharedPrefixBits xs ys else leadingZeros (x ^^^ y)
  | _, _ => 0

namespace NodeId

/-- Ids are compared byte by byte, which is as big-endian numbers. -/
instance : LinearOrder NodeId := LinearOrder.lift' (fun id => beNat id.bytes) (by
  intro a b h
  cases a with | mk bytes size =>
  cases b with | mk bytes' size' =>
  have hbytes : bytes = bytes' := beNat_inj (size.trans size'.symm) h
  subst hbytes
  rfl)

def sharedPrefixLen (a b : NodeId) : Nat := ffiSharedPrefixBits a.bytes b.bytes

def distance (a b : NodeId) : NodeId where
  bytes := List.zipWith (· ^^^ ·) a.bytes b.bytes
  size := by rw [List.length_zipWith, a.size, b.size, Nat.min_self]

theorem beNat_lt_iff : ∀ {bs cs : Bytes}, bs.length = cs.length → (beNat bs < beNat cs ↔ bs < cs)
  | [], [], _ => by simp
  | b :: bs, c :: cs, hlen => by
    have hlen : bs.length = cs.length := Nat.succ.inj hlen
    have hbs := beNat_lt bs
    have hcs := beNat_lt cs
    rw [← hlen] at hcs
    rw [List.cons_lt_cons_iff, ← beNat_lt_iff hlen, beNat_cons, beNat_cons, ← hlen, ← UInt8.toNat_inj,
      UInt8.lt_iff_toNat_lt]
    rcases Nat.lt_trichotomy b.toNat c.toNat with h | h | h
    · have hmul := Nat.mul_le_mul_right (256 ^ bs.length) (show b.toNat + 1 ≤ c.toNat from h)
      rw [Nat.add_mul] at hmul
      constructor
      · intro _
        exact .inl h
      · intro _
        omega
    · rw [h]
      simp
    · have hmul := Nat.mul_le_mul_right (256 ^ bs.length) (show c.toNat + 1 ≤ b.toNat from h)
      rw [Nat.add_mul] at hmul
      constructor
      · intro _
        omega
      · rintro (h' | h') <;> omega

/-- The order is that of the byte arrays. -/
theorem lt_iff_bytes {a b : NodeId} : a < b ↔ a.bytes < b.bytes := beNat_lt_iff (a.size.trans b.size.symm)

theorem zipWith_xor_inj : ∀ {as bs ts : Bytes}, as.length = ts.length → bs.length = ts.length →
    List.zipWith (· ^^^ ·) as ts = List.zipWith (· ^^^ ·) bs ts → as = bs
  | [], [], _, _, _, _ => rfl
  | a :: as, b :: bs, t :: ts, ha, hb, h => by
    rw [List.zipWith_cons_cons, List.zipWith_cons_cons] at h
    obtain ⟨hhead, htail⟩ := List.cons.inj h
    have hrest := zipWith_xor_inj (Nat.succ.inj ha) (Nat.succ.inj hb) htail
    have hab : a = b := by
      rw [← UInt8.xor_zero (a := a), ← UInt8.xor_self (a := t), ← UInt8.xor_assoc, hhead, UInt8.xor_assoc,
        UInt8.xor_self, UInt8.xor_zero]
    rw [hab, hrest]
  | [], _ :: _, [], _, hb, _ => by cases hb
  | _ :: _, [], [], ha, _, _ => by cases ha
  | [], _ :: _, _ :: _, ha, _, _ => by cases ha
  | _ :: _, [], _ :: _, _, hb, _ => by cases hb

/-- Two ids at one distance from a target are one id. -/
theorem distance_inj {a b target : NodeId} (h : a.distance target = b.distance target) : a = b := by
  have hbytes := zipWith_xor_inj (a.size.trans target.size.symm) (b.size.trans target.size.symm)
    (congrArg NodeId.bytes h)
  cases a
  cases b
  cases hbytes
  rfl

theorem beNat_zipWith_self : ∀ bs : Bytes, beNat (List.zipWith (· ^^^ ·) bs bs) = 0
  | [] => rfl
  | b :: bs => by
    rw [List.zipWith_cons_cons, UInt8.xor_self, beNat_cons, beNat_zipWith_self bs]
    simp

/-- Nothing is nearer to an id than the id itself, and nothing else as near. -/
theorem eq_of_distance_le {a target : NodeId} (h : a.distance target ≤ target.distance target) : a = target := by
  have hzero : beNat (target.distance target).bytes = 0 := beNat_zipWith_self target.bytes
  have hge : target.distance target ≤ a.distance target := by
    show beNat (target.distance target).bytes ≤ beNat (a.distance target).bytes
    omega
  exact distance_inj (le_antisymm h hge)

end NodeId

namespace Kad

/-! ## Buckets -/

/-- `K`. -/
def bucketSize : Nat := 20

def numBuckets : Nat := 160

inductive UpdateResult where
  | inserted
  | updated
  | full (oldest : Contact)
  | selfIgnored
deriving DecidableEq

structure KBucket where
  contacts : List Contact := []
deriving DecidableEq

namespace KBucket

/-- A known contact goes to the end under its known address; of a full bucket the head is returned, to be pinged. -/
def update (b : KBucket) (contact : Contact) : KBucket × UpdateResult :=
  match lookupKey Contact.id contact.id b.contacts with
  | some existing => (⟨eraseKey Contact.id contact.id b.contacts ++ [existing]⟩, .updated)
  | none =>
    match b.contacts with
    | [] => (⟨[contact]⟩, .inserted)
    | oldest :: rest =>
      if (oldest :: rest).length < bucketSize then (⟨oldest :: rest ++ [contact]⟩, .inserted) else (b, .full oldest)

/-- The same with the new address. -/
def forceUpdate (b : KBucket) (contact : Contact) : KBucket × UpdateResult :=
  match lookupKey Contact.id contact.id b.contacts with
  | some _ => (⟨eraseKey Contact.id contact.id b.contacts ++ [contact]⟩, .updated)
  | none =>
    match b.contacts with
    | [] => (⟨[contact]⟩, .inserted)
    | oldest :: rest =>
      if (oldest :: rest).length < bucketSize then (⟨oldest :: rest ++ [contact]⟩, .inserted) else (b, .full oldest)

def remove (b : KBucket) (id : NodeId) : KBucket × Option Contact :=
  (⟨eraseKey Contact.id id b.contacts⟩, lookupKey Contact.id id b.contacts)

/-- The head goes, whatever it is by now, and the contact comes last. -/
def replaceOldest (b : KBucket) (newContact : Contact) : KBucket := ⟨b.contacts.tail ++ [newContact]⟩

end KBucket

/-! ## The table -/

structure RoutingTable where
  localId : NodeId
  buckets : Vector KBucket numBuckets := .replicate numBuckets {}
deriving DecidableEq

/-- What `update` and `force_update` do not take. -/
def Contact.unusable (c : Contact) : Bool := c.addr.port = 0 || c.addr.ip.isUnspecified || c.addr.ip.isMulticast

namespace RoutingTable

def bucketIndex (t : RoutingTable) (id : NodeId) : Fin numBuckets :=
  let shared := t.localId.sharedPrefixLen id
  if h : shared < numBuckets then ⟨shared, h⟩ else ⟨numBuckets - 1, by decide⟩

/-- The bucket of an id. -/
def bucket (t : RoutingTable) (id : NodeId) : KBucket := t.buckets.get (t.bucketIndex id)

def setBucket (t : RoutingTable) (id : NodeId) (b : KBucket) : RoutingTable :=
  { t with buckets := t.buckets.set (t.bucketIndex id) b (t.bucketIndex id).isLt }

def update (t : RoutingTable) (contact : Contact) : RoutingTable × UpdateResult :=
  if contact.id = t.localId then (t, .selfIgnored)
  else if contact.unusable then (t, .selfIgnored)
  else
    let updated := (t.bucket contact.id).update contact
    (t.setBucket contact.id updated.1, updated.2)

def forceUpdate (t : RoutingTable) (contact : Contact) : RoutingTable × UpdateResult :=
  if contact.id = t.localId then (t, .selfIgnored)
  else if contact.unusable then (t, .selfIgnored)
  else
    let updated := (t.bucket contact.id).forceUpdate contact
    (t.setBucket contact.id updated.1, updated.2)

def remove (t : RoutingTable) (id : NodeId) : RoutingTable × Option Contact :=
  let removed := (t.bucket id).remove id
  (t.setBucket id removed.1, removed.2)

def replaceOldest (t : RoutingTable) (newContact : Contact) : RoutingTable :=
  t.setBucket newContact.id ((t.bucket newContact.id).replaceOldest newContact)

def allContacts (t : RoutingTable) : List Contact := t.buckets.toList.flatMap KBucket.contacts

def totalContacts (t : RoutingTable) : Nat := (t.buckets.toList.map fun b => b.contacts.length).sum

def findClosest (t : RoutingTable) (target : NodeId) (count : Nat) : List Contact :=
  nearest (fun c => c.id.distance target) count t.allContacts

end RoutingTable

/-! ## What the operations do -/

namespace KBucket

def ids (b : KBucket) : List NodeId := b.contacts.map Contact.id

theorem not_mem_ids {b : KBucket} {id : NodeId} : id ∉ b.ids ↔ lookupKey Contact.id id b.contacts = none := by
  rw [lookupKey_eq_none]
  unfold ids
  rw [List.mem_map]
  push Not
  rfl

/-- What `update` does: move a known contact, append a new one, or ask for the head of a full bucket. -/
theorem update_cases (b : KBucket) (c : Contact) :
    c.id ∈ b.ids ∧ (b.update c).2 = .updated ∧ (b.update c).1.contacts.Perm b.contacts ∨
      c.id ∉ b.ids ∧ b.contacts.length < bucketSize ∧ b.update c = (⟨b.contacts ++ [c]⟩, .inserted) ∨
      c.id ∉ b.ids ∧ bucketSize ≤ b.contacts.length ∧
        ∃ oldest rest, b.contacts = oldest :: rest ∧ b.update c = (b, .full oldest) := by
  unfold update
  cases hfound : lookupKey Contact.id c.id b.contacts with
  | some existing =>
    refine .inl ⟨?_, rfl, ?_⟩
    · rw [← key_of_lookupKey Contact.id hfound]
      exact List.mem_map_of_mem (mem_of_lookupKey Contact.id hfound)
    · exact (List.perm_append_singleton _ _).trans (perm_eraseKey Contact.id hfound).symm
  | none =>
    have hnot := not_mem_ids.2 hfound
    cases hcontacts : b.contacts with
    | nil => exact .inr (.inl ⟨hnot, by decide, rfl⟩)
    | cons oldest rest =>
      by_cases hfull : (oldest :: rest).length < bucketSize
      · exact .inr (.inl ⟨hnot, hfull, if_pos hfull⟩)
      · exact .inr (.inr ⟨hnot, by omega, oldest, rest, rfl, if_neg hfull⟩)

/-- `force_update` differs from `update` in the address of a known contact. -/
theorem forceUpdate_cases (b : KBucket) (c : Contact) :
    (∃ existing ∈ b.contacts, existing.id = c.id ∧ (b.forceUpdate c).2 = .updated ∧
        ∃ rest, b.contacts.Perm (existing :: rest) ∧ (b.forceUpdate c).1.contacts = rest ++ [c]) ∨
      c.id ∉ b.ids ∧ b.contacts.length < bucketSize ∧ b.forceUpdate c = (⟨b.contacts ++ [c]⟩, .inserted) ∨
      c.id ∉ b.ids ∧ bucketSize ≤ b.contacts.length ∧
        ∃ oldest rest, b.contacts = oldest :: rest ∧ b.forceUpdate c = (b, .full oldest) := by
  unfold forceUpdate
  cases hfound : lookupKey Contact.id c.id b.contacts with
  | some existing =>
    exact .inl ⟨existing, mem_of_lookupKey Contact.id hfound, key_of_lookupKey Contact.id hfound, rfl, _,
      perm_eraseKey Contact.id hfound, rfl⟩
  | none =>
    have hnot := not_mem_ids.2 hfound
    cases hcontacts : b.contacts with
    | nil => exact .inr (.inl ⟨hnot, by decide, rfl⟩)
    | cons oldest rest =>
      by_cases hfull : (oldest :: rest).length < bucketSize
      · exact .inr (.inl ⟨hnot, hfull, if_pos hfull⟩)
      · exact .inr (.inr ⟨hnot, by omega, oldest, rest, rfl, if_neg hfull⟩)

/-- A bucket's ids only change place, or a new one comes last where there is room. -/
def Grows (b b' : KBucket) (id : NodeId) : Prop :=
  b'.ids.Perm b.ids ∨ id ∉ b.ids ∧ b.contacts.length < bucketSize ∧ b'.ids = b.ids ++ [id]

theorem grows_update (b : KBucket) (c : Contact) : Grows b (b.update c).1 c.id := by
  rcases b.update_cases c with ⟨-, -, hperm⟩ | ⟨hnot, hroom, h⟩ | ⟨-, -, oldest, rest, -, h⟩
  · exact .inl (hperm.map _)
  · rw [h]
    exact .inr ⟨hnot, hroom, List.map_append⟩
  · rw [h]
    exact .inl (List.Perm.refl _)

theorem grows_forceUpdate (b : KBucket) (c : Contact) : Grows b (b.forceUpdate c).1 c.id := by
  rcases b.forceUpdate_cases c with
    ⟨existing, -, hid, -, rest, hperm, h⟩ | ⟨hnot, hroom, h⟩ | ⟨-, -, oldest, rest, -, h⟩
  · refine .inl ?_
    have hids : (b.forceUpdate c).1.ids.Perm (existing.id :: rest.map Contact.id) := by
      unfold ids
      rw [h, List.map_append, hid]
      exact List.perm_append_singleton _ _
    exact hids.trans (hperm.map Contact.id).symm
  · rw [h]
    exact .inr ⟨hnot, hroom, List.map_append⟩
  · rw [h]
    exact .inl (List.Perm.refl _)

end KBucket

namespace RoutingTable

variable (t : RoutingTable) (id : NodeId) (b : KBucket)

theorem get_setBucket (i : Fin numBuckets) :
    (t.setBucket id b).buckets.get i = if i = t.bucketIndex id then b else t.buckets.get i := by
  show (t.buckets.set (t.bucketIndex id) b (t.bucketIndex id).isLt)[i.val] = _
  rw [Vector.getElem_set]
  by_cases h : i = t.bucketIndex id
  · rw [if_pos h, if_pos (by rw [h])]
  · rw [if_neg h, if_neg fun hval => h (Fin.ext hval.symm)]
    rfl

theorem setBucket_self : t.setBucket id (t.bucket id) = t := by
  unfold setBucket bucket
  have hset : t.buckets.set (t.bucketIndex id) (t.buckets.get (t.bucketIndex id)) (t.bucketIndex id).isLt =
      t.buckets := Vector.set_getElem_self _
  rw [hset]

/-- A contact is refused with the head of its bucket, which is left as it is. -/
theorem update_full {t : RoutingTable} {c oldest : Contact} (h : (t.update c).2 = .full oldest) :
    (t.update c).1 = t ∧ c.id ≠ t.localId ∧ c.unusable = false ∧ c.id ∉ (t.bucket c.id).ids ∧
      bucketSize ≤ (t.bucket c.id).contacts.length ∧ (t.bucket c.id).contacts.head? = some oldest := by
  unfold update at h ⊢
  split at h
  · cases h
  · rename_i hself
    split at h
    · cases h
    · rename_i husable
      rw [if_neg hself, if_neg husable]
      rcases KBucket.update_cases (t.bucket c.id) c with
        ⟨-, hres, -⟩ | ⟨-, -, hres⟩ | ⟨hnot, hsize, o, rest, hhead, hres⟩
      · rw [hres] at h
        cases h
      · rw [hres] at h
        cases h
      · rw [hres] at h ⊢
        obtain rfl : o = oldest := UpdateResult.full.inj h
        refine ⟨setBucket_self t c.id, hself, by simpa using husable, hnot, hsize, ?_⟩
        rw [hhead]
        rfl

theorem mem_allContacts {c : Contact} : c ∈ t.allContacts ↔ ∃ i, c ∈ (t.buckets.get i).contacts := by
  unfold allContacts
  rw [List.mem_flatMap]
  constructor
  · rintro ⟨b, hb, hc⟩
    obtain ⟨i, hi, rfl⟩ := Vector.getElem_of_mem (Vector.mem_toList_iff.1 hb)
    exact ⟨⟨i, hi⟩, hc⟩
  · rintro ⟨i, hc⟩
    exact ⟨_, Vector.mem_toList_iff.2 (Vector.getElem_mem i.isLt), hc⟩

theorem length_allContacts : t.allContacts.length = t.totalContacts := List.length_flatMap

/-- Contacts that are all in one bucket are not more than that bucket holds. -/
theorem countP_allContacts_le {p : Contact → Bool} {i : Fin numBuckets}
    (h : ∀ j, ∀ c ∈ (t.buckets.get j).contacts, p c = true → j = i) :
    t.allContacts.countP p ≤ (t.buckets.get i).contacts.length := by
  have hsplit : t.buckets.toList = t.buckets.toList.take i ++ t.buckets.get i :: t.buckets.toList.drop (i + 1) := by
    have hlen : i.val < t.buckets.toList.length := by
      rw [Vector.length_toList]
      exact i.isLt
    conv_lhs => rw [← List.take_append_drop i t.buckets.toList, List.drop_eq_getElem_cons hlen]
    rfl
  -- the other buckets hold none of them
  have hnone : ∀ bs : List KBucket, (∀ b ∈ bs, ∃ j, t.buckets.get j = b ∧ j ≠ i) →
      (bs.flatMap KBucket.contacts).countP p = 0 := by
    intro bs hbs
    rw [List.countP_eq_zero]
    intro c hc hp
    obtain ⟨b, hb, hcb⟩ := List.mem_flatMap.1 hc
    obtain ⟨j, rfl, hj⟩ := hbs b hb
    exact hj (h j c hcb hp)
  unfold allContacts
  rw [hsplit, List.flatMap_append, List.flatMap_cons, List.countP_append, List.countP_append, hnone, hnone,
    Nat.zero_add, Nat.add_zero]
  · exact List.countP_le_length
  · intro b hb
    obtain ⟨j, hj, rfl⟩ := List.mem_drop_iff_getElem.1 hb
    rw [Vector.length_toList] at hj
    exact ⟨⟨i + 1 + j, by omega⟩, (Vector.getElem_toList _).symm, fun heq => by
      have := congrArg Fin.val heq
      dsimp only at this
      omega⟩
  · intro b hb
    obtain ⟨j, hj, rfl⟩ := List.mem_take_iff_getElem.1 hb
    rw [Vector.length_toList] at hj
    exact ⟨⟨j, by omega⟩, (Vector.getElem_toList _).symm, fun heq => by
      have := congrArg Fin.val heq
      dsimp only at this
      omega⟩

end RoutingTable

end Kad

end NodeX
