/-
What a node does to its own storage: the STORE and FIND_VALUE branches of the request handler, the two local
parts of `get_silent` around its lookup, and the local write of `put`. Each holds the storage lock once, so
each is one step; everything between them can interleave.
-/
import NodeX.Kad.Merge

namespace NodeX.Kad

variable (J : ValueJson)

/-- The STORE branch: read, merge and write under one lock; the storage after it, and the `ok` of the answer. -/
def handleStore (st : Storage) (key : NodeId) (value : Bytes) (now : Nat) : Storage × Bool :=
  match mergeStoreValue J (st.get key now) value with
  | (merged, ok, _) => (if ok then st.put key merged defaultTtl now else st, ok)

/-- The FIND_VALUE branch with a value to return: the storage after it, and the value. A value that a merge would
make shorter is replaced by what the merge makes of it. -/
def handleFindValue (st : Storage) (key : NodeId) (now : Nat) : Storage × Option Bytes :=
  match st.get key now with
  | none => (st, none)
  | some value =>
    let (bounded, _, _) := mergeStoreValue J none value
    if bounded.length < value.length then (st.put key bounded defaultTtl now, some bounded) else (st, some value)

/-- The end of a lookup in `get` and `get_silent`: a value that was found is kept locally. -/
def cacheFound (st : Storage) (key : NodeId) (found : Option Bytes) (ttl now : Nat) : Storage :=
  match found with
  | some value => st.put key value ttl now
  | none => st

variable {J}

/-! ## STORE -/

theorem handleStore_rejected {st : Storage} {key : NodeId} {value : Bytes} {now : Nat}
    (h : (handleStore J st key value now).2 = false) : (handleStore J st key value now).1 = st := by
  unfold handleStore at h ⊢
  simp only at h ⊢
  rw [h]
  rfl

/-- An accepted value is merged into the live record and becomes the record, with a new time to live. -/
theorem record?_handleStore {st : Storage} {key : NodeId} {value : Bytes} {now : Nat}
    (h : (handleStore J st key value now).2 = true) :
    (handleStore J st key value now).1.record? key =
      some (Record.new (mergeStoreValue J (st.get key now) value).1 defaultTtl now) := by
  unfold handleStore at h ⊢
  simp only at h ⊢
  rw [if_pos h]
  exact st.record?_put_self key defaultTtl now (length_mergeStoreValue h)

/-- Under the other keys, the handler at most makes room. -/
theorem record?_handleStore_other {st : Storage} {key k : NodeId} {value : Bytes} {now : Nat} (hk : key ≠ k)
    {r : Record} (h : (handleStore J st key value now).1.record? k = some r) : st.record? k = some r := by
  unfold handleStore at h
  simp only at h
  split at h
  · exact st.record?_put_other _ _ _ hk h
  · exact h

/-! ## FIND_VALUE -/

theorem handleFindValue_of_none {st : Storage} {key : NodeId} {now : Nat} (h : st.get key now = none) :
    handleFindValue J st key now = (st, none) := by
  unfold handleFindValue
  rw [h]

theorem handleFindValue_of_some {st : Storage} {key : NodeId} {value : Bytes} {now : Nat}
    (h : st.get key now = some value) :
    handleFindValue J st key now =
      if (mergeStoreValue J none value).1.length < value.length then
        (st.put key (mergeStoreValue J none value).1 defaultTtl now, some (mergeStoreValue J none value).1)
      else (st, some value) := by
  unfold handleFindValue
  rw [h]

/-! ## Lookups -/

theorem record?_cacheFound_other {st : Storage} {key k : NodeId} {found : Option Bytes} {ttl now : Nat} (hk : key ≠ k)
    {r : Record} (h : (cacheFound st key found ttl now).record? k = some r) : st.record? k = some r := by
  cases found with
  | none => exact h
  | some value => exact st.record?_put_other _ _ _ hk h

end NodeX.Kad
