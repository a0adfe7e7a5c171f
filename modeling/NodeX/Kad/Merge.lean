/-
`merge_store_value`: how a node merges what it is sent into the record it has under a key. JSON arrays
are merged element by element under two caps; any other value replaces the record.
-/
import NodeX.Kad.Storage
import NodeX.Kad.Wire

namespace NodeX.Kad

/-- `serde_json` on untyped values: reading an array of them, writing one, and writing an array. A
value that was read can always be written. -/
structure ValueJson where
  Value : Type
  [decEq : DecidableEq Value]
  /-- `from_slice::<Vec<Value>>` -/
  parseValues : Bytes → Option (List Value)
  /-- `to_vec` of a value -/
  printValue : Value → Bytes
  /-- `to_vec` of an array -/
  printValues : List Value → Bytes

attribute [instance] ValueJson.decEq

def maxMailboxValueBytes : Nat := 48 * 1024

def maxMailboxEnvelopes : Nat := 50

variable (J : ValueJson)

/-! ## Merging -/

/-- The loop over the incoming elements: the array with the new ones appended, and whether an
oversized one was left out. -/
def appendNew (envelopes : List J.Value) : List J.Value → List J.Value × Bool
  | [] => (envelopes, false)
  | e :: rest =>
    if (J.printValue e).length > maxMailboxValueBytes then ((appendNew envelopes rest).1, true)
    else appendNew (if e ∈ envelopes then envelopes else envelopes ++ [e]) rest

/-- The oldest elements go until the array fits the size cap: what is left, and how many went. -/
def prune : List J.Value → List J.Value × Nat
  | [] => ([], 0)
  | e :: rest =>
    if (J.printValues (e :: rest)).length > maxMailboxValueBytes then ((prune rest).1, (prune rest).2 + 1)
    else (e :: rest, 0)

/-- Both caps: first the oldest beyond the count go, then the oldest beyond the size. -/
def capArray (envelopes : List J.Value) : List J.Value × Nat :=
  prune J (envelopes.drop (envelopes.length - maxMailboxEnvelopes))

/-- The elements of a record that is an array; no other record has any. -/
def elementsOf (existing : Option Bytes) : List J.Value := (existing.bind J.parseValues).getD []

/-- `merge_store_value`: the record, whether the value was accepted, and how many were pruned. -/
def mergeStoreValue (existing : Option Bytes) (incoming : Bytes) : Bytes × Bool × Nat :=
  match J.parseValues incoming with
  | some newEnvelopes =>
    let (envelopes, rejected) := appendNew J (elementsOf J existing) newEnvelopes
    let (kept, pruned) := capArray J envelopes
    let encoded := J.printValues kept
    -- a single unusually large envelope must not replace a readable mailbox
    if encoded.length > maxMailboxValueBytes then (existing.getD [], false, pruned)
    else (encoded, !rejected, pruned)
  | none => if incoming.length > maxValueSize then (existing.getD [], false, 0) else (incoming, true, 0)

/-! ## What merging keeps -/

variable {J}

/-- Nothing that was there is lost, and what is added comes from the request. -/
theorem appendNew_append : ∀ (incoming envelopes : List J.Value),
    ∃ added, (appendNew J envelopes incoming).1 = envelopes ++ added ∧ ∀ v ∈ added, v ∈ incoming
  | [], envelopes => ⟨[], (List.append_nil _).symm, fun _ h => by cases h⟩
  | e :: rest, envelopes => by
    unfold appendNew
    split
    · obtain ⟨added, heq, hadd⟩ := appendNew_append rest envelopes
      exact ⟨added, heq, fun v hv => List.mem_cons_of_mem _ (hadd v hv)⟩
    · split
      · obtain ⟨added, heq, hadd⟩ := appendNew_append rest envelopes
        exact ⟨added, heq, fun v hv => List.mem_cons_of_mem _ (hadd v hv)⟩
      · obtain ⟨added, heq, hadd⟩ := appendNew_append rest (envelopes ++ [e])
        refine ⟨e :: added, by rw [heq, List.append_assoc]; rfl, fun v hv => ?_⟩
        rcases List.mem_cons.1 hv with rfl | hv
        · exact List.mem_cons_self
        · exact List.mem_cons_of_mem _ (hadd v hv)

/-- Without an oversized element, everything sent is in the array. -/
theorem mem_appendNew : ∀ {incoming envelopes : List J.Value}, (appendNew J envelopes incoming).2 = false →
    ∀ v ∈ incoming, v ∈ (appendNew J envelopes incoming).1
  | [], _, _, _, hv => by cases hv
  | e :: rest, envelopes, h, v, hv => by
    unfold appendNew at h ⊢
    split at h
    · cases h
    · rename_i hsize
      rw [if_neg hsize]
      rcases List.mem_cons.1 hv with rfl | hv
      · obtain ⟨added, heq, -⟩ := appendNew_append rest (if v ∈ envelopes then envelopes else envelopes ++ [v])
        rw [heq]
        refine List.mem_append_left _ ?_
        split
        · assumption
        · exact List.mem_append_right _ List.mem_cons_self
      · exact mem_appendNew h v hv

theorem prune_eq_drop : ∀ envelopes : List J.Value, (prune J envelopes).1 = envelopes.drop (prune J envelopes).2
  | [] => rfl
  | e :: rest => by
    unfold prune
    split
    · exact prune_eq_drop rest
    · rfl

/-- The caps only drop from the front. -/
theorem capArray_suffix (envelopes : List J.Value) : (capArray J envelopes).1 <:+ envelopes := by
  unfold capArray
  rw [prune_eq_drop]
  exact (List.drop_suffix _ _).trans (List.drop_suffix _ _)

/-- The arrays the merge is made of, when it accepts an array. -/
theorem mergeStoreValue_array {existing : Option Bytes} {incoming : Bytes} {new : List J.Value}
    (hnew : J.parseValues incoming = some new) (hok : (mergeStoreValue J existing incoming).2.1 = true) :
    (appendNew J (elementsOf J existing) new).2 = false ∧
      (mergeStoreValue J existing incoming).1 =
        J.printValues (capArray J (appendNew J (elementsOf J existing) new).1).1 ∧
      (J.printValues (capArray J (appendNew J (elementsOf J existing) new).1).1).length ≤ maxMailboxValueBytes := by
  unfold mergeStoreValue at hok ⊢
  simp only [hnew] at hok ⊢
  split at hok
  · cases hok
  · rename_i hsize
    rw [if_neg hsize]
    refine ⟨?_, rfl, by omega⟩
    simpa using hok

theorem mergeStoreValue_other {existing : Option Bytes} {incoming : Bytes}
    (hnew : J.parseValues incoming = none) (hok : (mergeStoreValue J existing incoming).2.1 = true) :
    (mergeStoreValue J existing incoming).1 = incoming ∧ incoming.length ≤ maxValueSize := by
  unfold mergeStoreValue at hok ⊢
  simp only [hnew] at hok ⊢
  split at hok
  · cases hok
  · rename_i hsize
    rw [if_neg hsize]
    exact ⟨rfl, by omega⟩

/-- An accepted value leaves a record no larger than the larger of the two limits. -/
theorem length_mergeStoreValue {existing : Option Bytes} {incoming : Bytes}
    (hok : (mergeStoreValue J existing incoming).2.1 = true) :
    (mergeStoreValue J existing incoming).1.length ≤ maxStorageBytes := by
  cases hnew : J.parseValues incoming with
  | some new =>
    obtain ⟨-, heq, hlen⟩ := mergeStoreValue_array hnew hok
    have h48 : maxMailboxValueBytes ≤ maxStorageBytes := by decide
    rw [heq]
    omega
  | none =>
    obtain ⟨heq, hlen⟩ := mergeStoreValue_other hnew hok
    have h64 : maxValueSize ≤ maxStorageBytes := by decide
    rw [heq]
    omega

end NodeX.Kad
