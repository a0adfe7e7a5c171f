/-
`storage.rs`: the records a node keeps, their time to live, and the bounds on how many it keeps and
how large they are together. Instants and durations are nanoseconds; every operation that reads
the clock takes the reading as an argument.
-/
import NodeX.Core.Bytes
import NodeX.Lib.Keyed

namespace NodeX.Kad

open NodeX.Lib

/-! ## Records -/

/-- `Duration::from_secs`. -/
def fromSecs (secs : Nat) : Nat := secs * 1000000000

def defaultTtl : Nat := fromSecs (24 * 3600)

def republishInterval : Nat := fromSecs 3600

def maxStorageBytes : Nat := 64 * 1024 * 1024

def maxStorageRecords : Nat := 50000

structure Record where
  value : Bytes
  createdAt : Nat
  ttl : Nat
  republishAt : Nat
deriving DecidableEq

namespace Record

def new (value : Bytes) (ttl now : Nat) : Record :=
  { value, createdAt := now, ttl, republishAt := now + republishInterval }

def isExpired (r : Record) (now : Nat) : Bool := r.ttl < now - r.createdAt

end Record

/-- The records by key, and the sum of their sizes that the code keeps along. -/
structure Storage where
  data : KeyedList (Prod.fst : NodeId × Record → NodeId) := ∅
  storedBytes : Nat := 0
deriving DecidableEq

namespace Storage

/-! ## Operations -/

/-- What is stored under the key, expired or not. -/
def record? (st : Storage) (key : NodeId) : Option Record := (st.data.get? key).map Prod.snd

def remove (st : Storage) (key : NodeId) : Storage × Option Record :=
  match st.record? key with
  | none => (st, none)
  | some r => ({ data := st.data.erase key, storedBytes := st.storedBytes - r.value.length }, some r)

/-- `min_by_key` on the creation time. The map iterates in no particular order, so among records of
one instant any may come first; here it is the one stored first. -/
def oldestKey : List (NodeId × Record) → Option (NodeId × Record)
  | [] => none
  | e :: rest =>
    match oldestKey rest with
    | none => some e
    | some e' => if e'.2.createdAt < e.2.createdAt then some e' else some e

/-- The eviction loop of `put` for a value of `len` bytes. Each round removes a record, so there are
at most as many rounds as records. -/
def evict (len : Nat) : Nat → Storage → Storage
  | 0, st => st
  | rounds + 1, st =>
    if st.storedBytes + len > maxStorageBytes ∨ st.data.list.length ≥ maxStorageRecords then
      match oldestKey st.data.list with
      | none => st
      | some e => evict len rounds (st.remove e.1).1
    else st

def put (st : Storage) (key : NodeId) (value : Bytes) (ttl now : Nat) : Storage :=
  if value.length > maxStorageBytes then st
  else
    let cleared := (st.remove key).1
    let st' := evict value.length cleared.data.list.length cleared
    { data := st'.data.upsert (key, Record.new value ttl now), storedBytes := st'.storedBytes + value.length }

def get (st : Storage) (key : NodeId) (now : Nat) : Option Bytes :=
  match st.record? key with
  | some r => if r.isExpired now then none else some r.value
  | none => none

def clear (_ : Storage) : Storage := {}

def cleanupStale (st : Storage) (now : Nat) : Storage :=
  let data := st.data.filter fun e => !e.2.isExpired now
  { data, storedBytes := (data.list.map fun e => e.2.value.length).sum }

/-! ## What is stored afterwards -/

theorem record?_remove (st : Storage) (key k : NodeId) :
    (st.remove key).1.record? k = if key = k then none else st.record? k := by
  unfold remove
  cases h : st.record? key with
  | none =>
    by_cases hk : key = k
    · subst hk
      rw [if_pos rfl]
      exact h
    · rw [if_neg hk]
  | some r =>
    unfold record?
    rw [KeyedList.get?_erase]
    split <;> rfl

/-- Eviction only takes records away. -/
theorem record?_evict (len : Nat) (k : NodeId) : ∀ (rounds : Nat) (st : Storage) {r : Record},
    (evict len rounds st).record? k = some r → st.record? k = some r
  | 0, _, _, h => h
  | rounds + 1, st, r, h => by
    unfold evict at h
    split at h
    · cases ho : oldestKey st.data.list with
      | none =>
        simp only [ho] at h
        exact h
      | some e =>
        simp only [ho] at h
        have h' := record?_evict len k rounds _ h
        rw [record?_remove] at h'
        split at h'
        · cases h'
        · exact h'
    · exact h

/-- A value that is not oversized is what is stored under its key afterwards. -/
theorem record?_put_self (st : Storage) (key : NodeId) {value : Bytes} (ttl now : Nat)
    (h : value.length ≤ maxStorageBytes) :
    (st.put key value ttl now).record? key = some (Record.new value ttl now) := by
  unfold put record?
  rw [if_neg (by omega)]
  simp only [KeyedList.get?_upsert, if_pos, Option.map_some]

theorem put_oversized (st : Storage) (key : NodeId) {value : Bytes} (ttl now : Nat)
    (h : maxStorageBytes < value.length) : st.put key value ttl now = st := by
  unfold put
  rw [if_pos h]

/-- Under the other keys a put changes nothing, or evicts. -/
theorem record?_put_other (st : Storage) {key k : NodeId} (value : Bytes) (ttl now : Nat) (hk : key ≠ k) {r : Record}
    (h : (st.put key value ttl now).record? k = some r) : st.record? k = some r := by
  by_cases hv : value.length > maxStorageBytes
  · rwa [put_oversized st key ttl now hv] at h
  · unfold put at h
    rw [if_neg hv] at h
    simp only [record?, KeyedList.get?_upsert, if_neg hk] at h
    have h' := record?_evict value.length k _ _ h
    rwa [record?_remove, if_neg hk] at h'

theorem get_eq_some {st : Storage} {key : NodeId} {now : Nat} {value : Bytes} :
    st.get key now = some value ↔ ∃ r, st.record? key = some r ∧ r.isExpired now = false ∧ r.value = value := by
  unfold get
  cases hr : st.record? key with
  | none => simp
  | some r =>
    cases he : r.isExpired now <;> simp [he]

/-- A record inside its time to live is what a read returns. -/
theorem get_of_fresh {st : Storage} {key : NodeId} {now : Nat} {r : Record} (hr : st.record? key = some r)
    (he : r.isExpired now = false) : st.get key now = some r.value :=
  get_eq_some.2 ⟨r, hr, he, rfl⟩

theorem get_eq_none_of_record {st : Storage} {key : NodeId} (now : Nat) (hr : st.record? key = none) :
    st.get key now = none := by
  unfold get
  rw [hr]

theorem record?_cleanupStale (st : Storage) (now : Nat) (k : NodeId) :
    (st.cleanupStale now).record? k = (st.record? k).filter fun r => !r.isExpired now := by
  unfold cleanupStale record?
  rw [KeyedList.get?_filter]
  cases h : st.data.get? k with
  | none => rfl
  | some e =>
    simp only [Option.map_some, Option.filter_some]
    split <;> rfl

/-! ## Accounting -/

/-- The bytes of the values. -/
def valueBytes (st : Storage) : Nat := (st.data.list.map fun e => e.2.value.length).sum

/-- The sum is kept right, and neither bound is exceeded. -/
structure Accounted (st : Storage) : Prop where
  bytes : st.storedBytes = st.valueBytes
  size : st.storedBytes ≤ maxStorageBytes
  count : st.data.list.length ≤ maxStorageRecords

theorem accounted_empty : Accounted {} := ⟨rfl, Nat.zero_le _, Nat.zero_le _⟩

variable {st : Storage} {key : NodeId} {r : Record}

theorem get?_of_record? (h : st.record? key = some r) : st.data.get? key = some (key, r) := by
  obtain ⟨e, he, rfl⟩ := Option.map_eq_some_iff.1 h
  rw [he, ← KeyedList.key_of_get? he]

theorem record?_of_mem {e : NodeId × Record} (h : e ∈ st.data.list) : st.record? e.1 = some e.2 := by
  unfold record?
  rw [KeyedList.mem_iff_get?.1 h]
  rfl

/-- Removing a record takes its bytes and one record away. -/
theorem remove_some (h : st.record? key = some r) :
    (st.remove key).1.storedBytes = st.storedBytes - r.value.length ∧
      st.valueBytes = r.value.length + (st.remove key).1.valueBytes ∧
      st.data.list.length = (st.remove key).1.data.list.length + 1 := by
  have hperm := KeyedList.perm_erase (get?_of_record? h)
  unfold remove valueBytes
  rw [h]
  refine ⟨rfl, ?_, ?_⟩
  · rw [(hperm.map _).sum_eq, List.map_cons, List.sum_cons]
  · rw [hperm.length_eq, List.length_cons]

theorem remove_none (h : st.record? key = none) : (st.remove key).1 = st := by
  unfold remove
  rw [h]

theorem Accounted.remove (h : st.Accounted) (key : NodeId) : (st.remove key).1.Accounted := by
  cases hr : st.record? key with
  | none => rwa [remove_none hr]
  | some r =>
    obtain ⟨hstored, hbytes, hcount⟩ := remove_some hr
    have hb := h.bytes
    have hs := h.size
    have hc := h.count
    exact ⟨by omega, by omega, by omega⟩

theorem Accounted.length_le (h : st.Accounted) (hr : st.record? key = some r) : r.value.length ≤ maxStorageBytes := by
  have hbytes := (remove_some hr).2.1
  have hb := h.bytes
  have hs := h.size
  omega

theorem oldestKey_mem : ∀ {l : List (NodeId × Record)} {e : NodeId × Record}, oldestKey l = some e → e ∈ l
  | [], _, h => by cases h
  | x :: l, e, h => by
    unfold oldestKey at h
    cases ho : oldestKey l with
    | none =>
      simp only [ho, Option.some.injEq] at h
      exact h ▸ List.mem_cons_self
    | some e' =>
      simp only [ho] at h
      split at h
      · obtain rfl := Option.some.inj h
        exact List.mem_cons_of_mem _ (oldestKey_mem ho)
      · exact Option.some.inj h ▸ List.mem_cons_self

theorem oldestKey_eq_none {l : List (NodeId × Record)} (h : oldestKey l = none) : l = [] := by
  cases l with
  | nil => rfl
  | cons x l =>
    unfold oldestKey at h
    split at h
    · cases h
    · split at h <;> cases h

/-- There is room for a value of this size and for one more record. -/
def HasRoom (st : Storage) (len : Nat) : Prop :=
  st.storedBytes + len ≤ maxStorageBytes ∧ st.data.list.length < maxStorageRecords

theorem not_hasRoom_iff {len : Nat} :
    ¬st.HasRoom len ↔ st.storedBytes + len > maxStorageBytes ∨ st.data.list.length ≥ maxStorageRecords := by
  unfold HasRoom
  omega

theorem Accounted.hasRoom_of_nil (h : st.Accounted) {len : Nat} (hlen : len ≤ maxStorageBytes)
    (hnil : st.data.list = []) : st.HasRoom len := by
  have hb := h.bytes
  unfold valueBytes at hb
  unfold HasRoom
  rw [hb, hnil]
  exact ⟨(Nat.zero_add len).symm ▸ hlen, by decide⟩

/-- Eviction makes room: it ends before its rounds do, or with nothing left. -/
theorem evict_spec (len : Nat) (hlen : len ≤ maxStorageBytes) : ∀ (rounds : Nat) {st : Storage}, st.Accounted →
    st.data.list.length ≤ rounds → (evict len rounds st).Accounted ∧ (evict len rounds st).HasRoom len
  | 0, _, h, hrounds => ⟨h, h.hasRoom_of_nil hlen (List.length_eq_zero_iff.1 (Nat.le_zero.1 hrounds))⟩
  | rounds + 1, st, h, hrounds => by
    unfold evict
    split
    · cases ho : oldestKey st.data.list with
      | none => exact ⟨h, h.hasRoom_of_nil hlen (oldestKey_eq_none ho)⟩
      | some e =>
        have hcount := (remove_some (record?_of_mem (oldestKey_mem ho))).2.2
        exact evict_spec len hlen rounds (h.remove e.1) (by omega)
    · rename_i hroom
      push Not at hroom
      exact ⟨h, hroom.1, hroom.2⟩

theorem evict_of_hasRoom {len : Nat} (h : st.HasRoom len) : ∀ rounds : Nat, evict len rounds st = st
  | 0 => rfl
  | rounds + 1 => by
    unfold evict
    rw [if_neg]
    rintro (hsize | hcount)
    · exact absurd h.1 (by omega)
    · exact absurd h.2 (by omega)

/-- A value under a free key, where there is room for it. -/
theorem Accounted.upsert (h : st.Accounted) {value : Bytes} (hroom : st.HasRoom value.length)
    (hnone : st.record? key = none) (ttl now : Nat) :
    Accounted { data := st.data.upsert (key, Record.new value ttl now)
                storedBytes := st.storedBytes + value.length } := by
  have hlist := KeyedList.list_upsert_of_none (x := (key, Record.new value ttl now)) (Option.map_eq_none_iff.1 hnone)
  have hb := h.bytes
  unfold valueBytes at hb
  obtain ⟨hsize, hcount⟩ := hroom
  refine ⟨?_, hsize, ?_⟩
  · unfold valueBytes
    simp only [hlist, List.map_append, List.sum_append, List.map_cons, List.map_nil, List.sum_cons, List.sum_nil]
    change _ = _ + (value.length + 0)
    omega
  · simp only [hlist, List.length_append, List.length_cons, List.length_nil]
    omega

/-- A put keeps the accounts. -/
theorem Accounted.put (h : st.Accounted) (key : NodeId) (value : Bytes) (ttl now : Nat) :
    (st.put key value ttl now).Accounted := by
  by_cases hv : value.length > maxStorageBytes
  · rwa [st.put_oversized key ttl now hv]
  · obtain ⟨hacc, hroom⟩ := evict_spec value.length (by omega) (st.remove key).1.data.list.length
      (h.remove key) le_rfl
    unfold Storage.put
    rw [if_neg hv]
    have hnone : (evict value.length (st.remove key).1.data.list.length (st.remove key).1).record? key = none := by
      cases hget : (evict value.length (st.remove key).1.data.list.length (st.remove key).1).record? key with
      | none => rfl
      | some r =>
        have hr := record?_evict _ key _ _ hget
        rw [record?_remove, if_pos rfl] at hr
        cases hr
    exact hacc.upsert hroom hnone ttl now

theorem Accounted.cleanupStale (h : st.Accounted) (now : Nat) : (st.cleanupStale now).Accounted := by
  have hsub : (st.cleanupStale now).data.list.Sublist st.data.list := List.filter_sublist
  refine ⟨rfl, ?_, hsub.length_le.trans h.count⟩
  have hle : (st.cleanupStale now).valueBytes ≤ st.valueBytes := (hsub.map _).sum_le_sum fun _ _ => Nat.zero_le _
  have hb := h.bytes
  have hs := h.size
  have hstored : (st.cleanupStale now).storedBytes = (st.cleanupStale now).valueBytes := rfl
  omega

/-- A record that does not grow is replaced without an eviction: nothing happens under the other keys. -/
theorem record?_put_shrinking (h : st.Accounted) (hr : st.record? key = some r) {value : Bytes}
    (hlen : value.length ≤ r.value.length) (ttl now : Nat) {k : NodeId} (hk : key ≠ k) :
    (st.put key value ttl now).record? k = st.record? k := by
  obtain ⟨hstored, hbytes, hcount⟩ := remove_some hr
  have hb := h.bytes
  have hs := h.size
  have hc := h.count
  have hroom : (st.remove key).1.HasRoom value.length := ⟨by omega, by omega⟩
  unfold put
  rw [if_neg (by omega)]
  simp only [evict_of_hasRoom hroom, record?, KeyedList.get?_upsert, if_neg hk]
  exact (st.record?_remove key k).trans (if_neg hk)

end Storage

end NodeX.Kad
