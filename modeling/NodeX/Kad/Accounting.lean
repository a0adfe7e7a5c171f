/-
The arithmetic of `storage.rs` as the machine does it, and the eviction loop round by round: which sums are formed with
saturating operations, and which records are evicted in which state. The map is iterated in no particular order, so that
among the oldest records any may be the one that is evicted.
-/
import NodeX.Kad.Storage
import NodeX.Lib.Runs

namespace NodeX.Kad

open NodeX.Lib

/-! ## Saturating sums -/

/-- `usize::MAX`. -/
def usizeMax : Nat := 2 ^ 64 - 1

/-- `saturating_add` and `saturating_sub` with their arguments. -/
inductive SizeSum where
  | add (a b : Nat)
  | sub (a b : Nat)
deriving DecidableEq

namespace SizeSum

def value : SizeSum → Nat
  | add a b => min (a + b) usizeMax
  | sub a b => a - b

/-- Nothing is cut off. -/
def Exact : SizeSum → Prop
  | add a b => a + b ≤ usizeMax
  | sub a b => b ≤ a

instance : DecidablePred Exact
  | add a b => inferInstanceAs (Decidable (a + b ≤ usizeMax))
  | sub a b => inferInstanceAs (Decidable (b ≤ a))

end SizeSum

/-- The record that `min_by_key` finds: one of the oldest, if there is any. -/
structure Oldest where
  pick : List (NodeId × Record) → Option (NodeId × Record)
  none_iff : ∀ l, pick l = none ↔ l = []
  mem : ∀ {l e}, pick l = some e → e ∈ l
  le : ∀ {l e}, pick l = some e → ∀ e' ∈ l, e.2.createdAt ≤ e'.2.createdAt

namespace Storage

/-! ## Operations, with what they do on the way -/

/-- What an operation leaves, the sums it formed, and the records it evicted, each with the storage as it was. -/
structure Effect where
  state : Storage
  sums : List SizeSum := []
  evicted : List (Storage × NodeId × Record) := []
deriving DecidableEq

/-- The removal of a record and of its bytes. -/
def removed (st : Storage) (key : NodeId) : Effect :=
  match st.record? key with
  | none => { state := st }
  | some r =>
    let sum := SizeSum.sub st.storedBytes r.value.length
    { state := { data := st.data.erase key, storedBytes := sum.value }, sums := [sum] }

/-- A round of the eviction loop that takes a record away, before the rest of the loop. -/
def round (st : Storage) (len : Nat) (e : NodeId × Record) (rest : Effect) : Effect :=
  { state := rest.state, sums := .add st.storedBytes len :: (st.removed e.1).sums ++ rest.sums
    evicted := (st, e) :: rest.evicted }

/-- The eviction loop of `put` for a value of `len` bytes, as far as the fuel lasts. -/
def evictLoop (oldest : Oldest) (len : Nat) : Nat → Storage → Option Effect
  | 0, _ => none
  | fuel + 1, st =>
    let sum := SizeSum.add st.storedBytes len
    if sum.value > maxStorageBytes ∨ st.data.list.length ≥ maxStorageRecords then
      match oldest.pick st.data.list with
      | none => some { state := st, sums := [sum] }
      | some e =>
        (evictLoop oldest len fuel (st.removed e.1).state).map (round st len e)
    else some { state := st, sums := [sum] }

inductive StorageOp where
  | put (key : NodeId) (value : Bytes) (ttl now : Nat) (oldest : Oldest)
  | remove (key : NodeId)
  | clear
  | cleanupStale (now : Nat)

/-- An operation, as far as the fuel of its loop lasts. -/
def effect? (fuel : Nat) (st : Storage) : StorageOp → Option Effect
  | .put key value ttl now oldest =>
    if value.length > maxStorageBytes then some { state := st }
    else
      let cleared := st.removed key
      (evictLoop oldest value.length fuel cleared.state).map fun evicted =>
        let sum := SizeSum.add evicted.state.storedBytes value.length
        { state := { data := evicted.state.data.upsert (key, Record.new value ttl now), storedBytes := sum.value }
          sums := cleared.sums ++ evicted.sums ++ [sum], evicted := evicted.evicted }
  | .remove key => some (st.removed key)
  | .clear => some { state := st.clear }
  | .cleanupStale now => some { state := st.cleanupStale now }

/-- The operation comes to its end with this, with any fuel for at least one round more than there are records. -/
def Ends (st : Storage) (op : StorageOp) (eff : Effect) : Prop :=
  ∀ fuel > st.data.list.length, effect? fuel st op = some eff

def step (st : Storage) (op : StorageOp) : Storage :=
  match effect? (st.data.list.length + 1) st op with
  | some eff => eff.state
  | none => st

/-- An operation that leaves the record under a key alone, if it is a cleanup no later than the deadline. -/
def Spares (key : NodeId) (deadline : Nat) (st : Storage) : StorageOp → Prop
  | .put k value ttl now oldest => k ≠ key ∧
      ∀ eff ∈ effect? (st.data.list.length + 1) st (.put k value ttl now oldest), ∀ p ∈ eff.evicted, p.2.1 ≠ key
  | .remove k => k ≠ key
  | .clear => False
  | .cleanupStale now => now ≤ deadline

/-- What is promised of a put: the records of other keys stay or are evicted, only the oldest are evicted and only while
a limit would be exceeded, and a value that is not oversized can be read until its time to live is over; one that is
changes nothing. -/
structure PutFaithful (st : Storage) (key : NodeId) (value : Bytes) (ttl now : Nat) (eff : Effect) : Prop where
  kept : ∀ k r, k ≠ key → st.record? k = some r → eff.state.record? k = some r ∨ ∃ s, (s, k, r) ∈ eff.evicted
  oldest : ∀ p ∈ eff.evicted, p.2 ∈ p.1.data.list ∧ ∀ e ∈ p.1.data.list, p.2.2.createdAt ≤ e.2.createdAt
  needed : ∀ p ∈ eff.evicted,
    p.1.valueBytes + value.length > maxStorageBytes ∨ p.1.data.list.length + 1 > maxStorageRecords
  readable : value.length ≤ maxStorageBytes → ∀ later t, t - now ≤ ttl →
    Steps step (Spares key t) eff.state later → (run step eff.state later).get key t = some value
  refused : value.length > maxStorageBytes → eff.state = st

/-- What is promised of every operation: the accounts are right, no sum was cut off, and nothing is evicted but by a
put. -/
structure Faithful (st : Storage) (op : StorageOp) (eff : Effect) : Prop where
  accounted : eff.state.Accounted
  exact : ∀ sum ∈ eff.sums, sum.Exact
  put : ∀ key value ttl now oldest, op = .put key value ttl now oldest → PutFaithful st key value ttl now eff
  other : (∀ key value ttl now oldest, op ≠ .put key value ttl now oldest) → eff.evicted = []

/-! ## One removal -/

variable {st : Storage} {key : NodeId} {r : Record} {oldest : Oldest} {len : Nat}

theorem removed_state (st : Storage) (key : NodeId) : (st.removed key).state = (st.remove key).1 := by
  unfold removed remove
  cases st.record? key <;> rfl

theorem length_removed_le (st : Storage) (key : NodeId) :
    (st.removed key).state.data.list.length ≤ st.data.list.length := by
  rw [removed_state]
  cases hr : st.record? key with
  | none => rw [remove_none hr]
  | some r =>
    have hcount := (remove_some hr).2.2
    omega

theorem evicted_removed (st : Storage) (key : NodeId) : (st.removed key).evicted = [] := by
  unfold removed
  cases st.record? key <;> rfl

/-- The bytes of a record that is there are in the sum. -/
theorem exact_removed (h : st.Accounted) : ∀ sum ∈ (st.removed key).sums, sum.Exact := by
  unfold removed
  cases hr : st.record? key with
  | none => exact List.forall_mem_nil _
  | some r =>
    rw [List.forall_mem_singleton]
    obtain ⟨-, hbytes, -⟩ := remove_some hr
    have hb := h.bytes
    show r.value.length ≤ st.storedBytes
    omega

/-! ## The loop -/

/-- What the eviction loop leaves and does. -/
structure LoopFaithful (st : Storage) (len : Nat) (eff : Effect) : Prop where
  accounted : eff.state.Accounted
  room : eff.state.HasRoom len
  exact : ∀ sum ∈ eff.sums, sum.Exact
  fewer : ∀ k r, eff.state.record? k = some r → st.record? k = some r
  kept : ∀ k r, st.record? k = some r → eff.state.record? k = some r ∨ ∃ s, (s, k, r) ∈ eff.evicted
  oldest : ∀ p ∈ eff.evicted, p.2 ∈ p.1.data.list ∧ ∀ e ∈ p.1.data.list, p.2.2.createdAt ≤ e.2.createdAt
  needed : ∀ p ∈ eff.evicted, p.1.valueBytes + len > maxStorageBytes ∨ p.1.data.list.length + 1 > maxStorageRecords

theorem exact_add (h : st.Accounted) (hlen : len ≤ maxStorageBytes) : (SizeSum.add st.storedBytes len).Exact := by
  have hsize := h.size
  have hmax : maxStorageBytes + maxStorageBytes ≤ usizeMax := by decide
  show st.storedBytes + len ≤ usizeMax
  omega

theorem exact_of_hasRoom (hroom : st.HasRoom len) : (SizeSum.add st.storedBytes len).Exact := by
  have hsize := hroom.1
  have hmax : maxStorageBytes ≤ usizeMax := by decide
  exact hsize.trans hmax

theorem value_of_exact {a b : Nat} (h : (SizeSum.add a b).Exact) : (SizeSum.add a b).value = a + b := Nat.min_eq_left h

/-- The loop ends when there is room, or nothing to evict. -/
theorem loopFaithful_done (h : st.Accounted) (hlen : len ≤ maxStorageBytes) (hroom : st.HasRoom len) :
    LoopFaithful st len { state := st, sums := [.add st.storedBytes len] } where
  accounted := h
  room := hroom
  exact := List.forall_mem_singleton.2 (exact_add h hlen)
  fewer _ _ hr := hr
  kept _ _ hr := .inl hr
  oldest := List.forall_mem_nil _
  needed := List.forall_mem_nil _

theorem evictLoop_of_hasRoom (h : st.Accounted) (hlen : len ≤ maxStorageBytes) (hroom : st.HasRoom len) {fuel : Nat}
    (hfuel : fuel > 0) : evictLoop oldest len fuel st = some { state := st, sums := [.add st.storedBytes len] } := by
  obtain ⟨fuel, rfl⟩ := Nat.exists_eq_succ_of_ne_zero (Nat.pos_iff_ne_zero.1 hfuel)
  unfold evictLoop
  dsimp only
  rw [value_of_exact (exact_add h hlen), if_neg]
  rintro (hsize | hcount)
  · exact absurd hroom.1 (by omega)
  · exact absurd hroom.2 (by omega)

theorem evictLoop_of_not_hasRoom (h : st.Accounted) (hlen : len ≤ maxStorageBytes) (hroom : ¬ st.HasRoom len)
    {e : NodeId × Record} (hpick : oldest.pick st.data.list = some e) (fuel : Nat) :
    evictLoop oldest len (fuel + 1) st = (evictLoop oldest len fuel (st.removed e.1).state).map (round st len e) := by
  conv_lhs => unfold evictLoop
  dsimp only
  rw [value_of_exact (exact_add h hlen), if_pos (not_hasRoom_iff.1 hroom), hpick]

/-- One round before a loop that does well does well. -/
theorem LoopFaithful.round (h : st.Accounted) (hlen : len ≤ maxStorageBytes) (hroom : ¬ st.HasRoom len)
    {e : NodeId × Record} (hpick : oldest.pick st.data.list = some e) {rest : Effect}
    (hrest : LoopFaithful (st.removed e.1).state len rest) : LoopFaithful st len (round st len e rest) where
  accounted := hrest.accounted
  room := hrest.room
  exact := by
    intro sum hsum
    rcases List.mem_append.1 hsum with hsum | hsum
    · rcases List.mem_cons.1 hsum with rfl | hsum
      · exact exact_add h hlen
      · exact exact_removed h sum hsum
    · exact hrest.exact sum hsum
  fewer := by
    intro k r hk
    have hk' := hrest.fewer k r hk
    rw [removed_state, record?_remove] at hk'
    split at hk'
    · cases hk'
    · exact hk'
  kept := by
    intro k r hk
    by_cases hke : e.1 = k
    · subst hke
      obtain rfl := Option.some.inj ((record?_of_mem (oldest.mem hpick)).symm.trans hk)
      exact .inr ⟨st, List.mem_cons_self⟩
    · have hk' : (st.removed e.1).state.record? k = some r := by
        rw [removed_state, record?_remove, if_neg hke]
        exact hk
      exact (hrest.kept k r hk').imp_right fun ⟨s, hs⟩ => ⟨s, List.mem_cons_of_mem _ hs⟩
  oldest := List.forall_mem_cons.2 ⟨⟨oldest.mem hpick, oldest.le hpick⟩, hrest.oldest⟩
  needed := by
    refine List.forall_mem_cons.2 ⟨?_, hrest.needed⟩
    have hb := h.bytes
    unfold HasRoom at hroom
    dsimp only
    omega

/-- Every round takes one of the oldest records away, so the loop ends, with room for the value. -/
theorem evictLoop_faithful (oldest : Oldest) (hlen : len ≤ maxStorageBytes) : ∀ (n : Nat) {st : Storage}, st.Accounted →
    st.data.list.length ≤ n → ∃ eff, (∀ fuel > st.data.list.length, evictLoop oldest len fuel st = some eff) ∧
      LoopFaithful st len eff := by
  intro n
  induction n with
  | zero =>
    intro st h hn
    have hroom := h.hasRoom_of_nil hlen (List.length_eq_zero_iff.1 (Nat.le_zero.1 hn))
    exact ⟨_, fun fuel hfuel => evictLoop_of_hasRoom h hlen hroom (by omega), loopFaithful_done h hlen hroom⟩
  | succ n ih =>
    intro st h hn
    by_cases hroom : st.HasRoom len
    · exact ⟨_, fun fuel hfuel => evictLoop_of_hasRoom h hlen hroom (by omega), loopFaithful_done h hlen hroom⟩
    · cases hpick : oldest.pick st.data.list with
      | none => exact absurd (h.hasRoom_of_nil hlen ((oldest.none_iff _).1 hpick)) hroom
      | some e =>
        obtain ⟨-, -, hcount⟩ := remove_some (record?_of_mem (oldest.mem hpick))
        rw [← removed_state] at hcount
        have hgone : (st.removed e.1).state.Accounted := by
          rw [removed_state]
          exact h.remove e.1
        obtain ⟨rest, hrest, hfaithful⟩ := ih hgone (by omega)
        refine ⟨round st len e rest, ?_, .round h hlen hroom hpick hfaithful⟩
        intro fuel hfuel
        obtain ⟨fuel, rfl⟩ := Nat.exists_eq_succ_of_ne_zero (Nat.pos_iff_ne_zero.1 (Nat.zero_lt_of_lt hfuel))
        rw [Nat.succ_eq_add_one, evictLoop_of_not_hasRoom h hlen hroom hpick, hrest fuel (by omega), Option.map_some]

/-! ## Every operation -/

variable {op : StorageOp} {eff : Effect}

theorem effect?_put_oversized {value : Bytes} (hv : value.length > maxStorageBytes) (fuel : Nat) (key : NodeId)
    (ttl now : Nat) : effect? fuel st (.put key value ttl now oldest) = some { state := st } := if_pos hv

/-- A put that its loop lets through: what it leaves and does. -/
def stored (st : Storage) (key : NodeId) (value : Bytes) (ttl now : Nat) (loop : Effect) : Effect :=
  { state :=
      { data := loop.state.data.upsert (key, Record.new value ttl now)
        storedBytes := (SizeSum.add loop.state.storedBytes value.length).value }
    sums := (st.removed key).sums ++ loop.sums ++ [.add loop.state.storedBytes value.length]
    evicted := loop.evicted }

theorem effect?_put {value : Bytes} (hv : value.length ≤ maxStorageBytes) (fuel : Nat) (key : NodeId) (ttl now : Nat) :
    effect? fuel st (.put key value ttl now oldest) =
      (evictLoop oldest value.length fuel (st.removed key).state).map (stored st key value ttl now) :=
  if_neg (Nat.not_lt.2 hv)

theorem Ends.step_eq (h : st.Ends op eff) : step st op = eff.state := by
  unfold step
  rw [h _ (Nat.lt_succ_self _)]

theorem exact_stored (h : st.Accounted) {value : Bytes} {loop : Effect}
    (hloop : LoopFaithful (st.removed key).state value.length loop) (ttl now : Nat) :
    ∀ sum ∈ (stored st key value ttl now loop).sums, sum.Exact := by
  intro sum hsum
  rcases List.mem_append.1 hsum with hsum | hsum
  · rcases List.mem_append.1 hsum with hsum | hsum
    · exact exact_removed h sum hsum
    · exact hloop.exact sum hsum
  · rw [List.mem_singleton.1 hsum]
    exact exact_of_hasRoom hloop.room

theorem accounted_stored {value : Bytes} {loop : Effect}
    (hloop : LoopFaithful (st.removed key).state value.length loop) (ttl now : Nat) :
    (stored st key value ttl now loop).state.Accounted := by
  have hnone : loop.state.record? key = none := by
    cases hr : loop.state.record? key with
    | none => rfl
    | some r =>
      have hr' := hloop.fewer key r hr
      rw [removed_state, record?_remove, if_pos rfl] at hr'
      cases hr'
  unfold stored
  rw [value_of_exact (exact_of_hasRoom hloop.room)]
  exact hloop.accounted.upsert hloop.room hnone ttl now

/-- Under the other keys the records stay or are evicted. -/
theorem kept_stored {value : Bytes} {loop : Effect} (hloop : LoopFaithful (st.removed key).state value.length loop)
    (ttl now : Nat) {k : NodeId} (hk : k ≠ key) (hr : st.record? k = some r) :
    (stored st key value ttl now loop).state.record? k = some r ∨
      ∃ s, (s, k, r) ∈ (stored st key value ttl now loop).evicted := by
  have hr' : (st.removed key).state.record? k = some r := by
    rw [removed_state, record?_remove, if_neg hk.symm]
    exact hr
  refine (hloop.kept k r hr').imp_left fun hloop => ?_
  unfold stored record?
  rw [KeyedList.get?_upsert, if_neg hk.symm]
  exact hloop

theorem record?_stored (st : Storage) (key : NodeId) (value : Bytes) (ttl now : Nat) (loop : Effect) :
    (stored st key value ttl now loop).state.record? key = some (Record.new value ttl now) := by
  unfold stored record?
  rw [KeyedList.get?_upsert, if_pos rfl]
  rfl

/-- A put of a value that is not oversized, on a storage whose accounts are right. -/
theorem ends_put (h : st.Accounted) {value : Bytes} (hv : value.length ≤ maxStorageBytes) (key : NodeId)
    (ttl now : Nat) (oldest : Oldest) :
    ∃ loop, st.Ends (.put key value ttl now oldest) (stored st key value ttl now loop) ∧
      LoopFaithful (st.removed key).state value.length loop := by
  have hcleared : (st.removed key).state.Accounted := by
    rw [removed_state]
    exact h.remove key
  have hcount := st.length_removed_le key
  obtain ⟨loop, hloop, hfaithful⟩ := evictLoop_faithful oldest hv _ hcleared le_rfl
  refine ⟨loop, ?_, hfaithful⟩
  intro fuel hfuel
  rw [effect?_put hv, hloop fuel (by omega), Option.map_some]

theorem accounted_step (h : st.Accounted) (op : StorageOp) : (step st op).Accounted := by
  cases op with
  | put key value ttl now oldest =>
    by_cases hv : value.length > maxStorageBytes
    · have hends : st.Ends (.put key value ttl now oldest) { state := st } := fun fuel _ => effect?_put_oversized hv ..
      rw [hends.step_eq]
      exact h
    · obtain ⟨loop, hends, hloop⟩ := ends_put h (Nat.not_lt.1 hv) key ttl now oldest
      rw [hends.step_eq]
      exact accounted_stored hloop ttl now
  | remove key =>
    change (st.removed key).state.Accounted
    rw [removed_state]
    exact h.remove key
  | clear => exact accounted_empty
  | cleanupStale now => exact h.cleanupStale now

/-! ## Records that are left alone -/

/-- An operation that spares a record that has not expired by the deadline keeps it. -/
theorem record?_step_of_spares (h : st.Accounted) {deadline : Nat} (hr : st.record? key = some r)
    (hfresh : r.isExpired deadline = false) (hspares : Spares key deadline st op) :
    (step st op).record? key = some r := by
  cases op with
  | put k value ttl now oldest =>
    obtain ⟨hk, hevicted⟩ := hspares
    by_cases hv : value.length > maxStorageBytes
    · have hends : st.Ends (.put k value ttl now oldest) { state := st } := fun fuel _ => effect?_put_oversized hv ..
      rw [hends.step_eq]
      exact hr
    · obtain ⟨loop, hends, hloop⟩ := ends_put h (Nat.not_lt.1 hv) k ttl now oldest
      rw [hends.step_eq]
      rcases kept_stored hloop ttl now hk.symm hr with hkept | ⟨s, hgone⟩
      · exact hkept
      · exact absurd rfl (hevicted _ (hends _ (Nat.lt_succ_self _)) _ hgone)
  | remove k =>
    change (st.removed k).state.record? key = some r
    rw [removed_state, record?_remove, if_neg hspares]
    exact hr
  | clear => exact hspares.elim
  | cleanupStale now =>
    change (st.cleanupStale now).record? key = some r
    have hnow : r.isExpired now = false := by
      have hle : now ≤ deadline := hspares
      unfold Record.isExpired at hfresh ⊢
      rw [decide_eq_false_iff_not] at hfresh ⊢
      omega
    rw [record?_cleanupStale, hr, Option.filter_some, hnow]
    rfl

/-- While every operation spares the record, it can be read until the deadline. -/
theorem get_run_of_spares (h : st.Accounted) {deadline : Nat} (hr : st.record? key = some r)
    (hfresh : r.isExpired deadline = false) {later : List StorageOp}
    (hspares : Steps step (Spares key deadline) st later) :
    (run step st later).get key deadline = some r.value := by
  have hkept : (run step st later).Accounted ∧ (run step st later).record? key = some r := by
    refine run_invariant (I := fun st => st.Accounted ∧ st.record? key = some r) ?_ ⟨h, hr⟩ hspares
    intro st op hst hop
    exact ⟨accounted_step hst.1 op, record?_step_of_spares hst.1 hst.2 hfresh hop⟩
  exact get_of_fresh hkept.2 hfresh

/-! ## All together -/

theorem putFaithful_oversized {value : Bytes} (hv : value.length > maxStorageBytes) (key : NodeId) (ttl now : Nat) :
    PutFaithful st key value ttl now { state := st } where
  kept _ _ _ hr := .inl hr
  oldest := List.forall_mem_nil _
  needed := List.forall_mem_nil _
  readable hle := absurd hle (Nat.not_le.2 hv)
  refused _ := rfl

theorem putFaithful_stored {value : Bytes} (hv : value.length ≤ maxStorageBytes) {loop : Effect}
    (hloop : LoopFaithful (st.removed key).state value.length loop) (ttl now : Nat) :
    PutFaithful st key value ttl now (stored st key value ttl now loop) where
  kept _ _ hk hr := kept_stored hloop ttl now hk hr
  oldest := hloop.oldest
  needed := hloop.needed
  readable := by
    intro _ later t ht hlater
    have hfresh : (Record.new value ttl now).isExpired t = false := decide_eq_false (Nat.not_lt.2 ht)
    exact get_run_of_spares (accounted_stored hloop ttl now) (record?_stored ..) hfresh hlater
  refused hgt := absurd hgt (Nat.not_lt.2 hv)

/-- An operation other than a put, which has no loop and evicts nothing. -/
theorem faithful_of_not_put (h : st.Accounted) (hends : st.Ends op eff) (hexact : ∀ sum ∈ eff.sums, sum.Exact)
    (hevicted : eff.evicted = []) (hop : ∀ key value ttl now oldest, op ≠ .put key value ttl now oldest) :
    Faithful st op eff where
  accounted := hends.step_eq ▸ accounted_step h op
  exact := hexact
  put key value ttl now oldest heq := absurd heq (hop key value ttl now oldest)
  other _ := hevicted

/-- With right accounts, every operation comes to its end and does what is promised of it. -/
theorem exists_faithful (h : st.Accounted) (op : StorageOp) : ∃ eff, st.Ends op eff ∧ Faithful st op eff := by
  cases op with
  | put key value ttl now oldest =>
    by_cases hv : value.length > maxStorageBytes
    · refine ⟨{ state := st }, fun fuel _ => effect?_put_oversized hv .., h, List.forall_mem_nil _, ?_, fun _ => rfl⟩
      rintro _ _ _ _ _ ⟨⟩
      exact putFaithful_oversized hv key ttl now
    · obtain ⟨loop, hends, hloop⟩ := ends_put h (Nat.not_lt.1 hv) key ttl now oldest
      refine ⟨_, hends, accounted_stored hloop ttl now, exact_stored h hloop ttl now, ?_, ?_⟩
      · rintro _ _ _ _ _ ⟨⟩
        exact putFaithful_stored (Nat.not_lt.1 hv) hloop ttl now
      · intro hne
        exact absurd rfl (hne key value ttl now oldest)
  | remove key =>
    refine ⟨st.removed key, fun _ _ => rfl, ?_⟩
    refine faithful_of_not_put h (fun _ _ => rfl) (exact_removed h) (st.evicted_removed key) ?_
    rintro _ _ _ _ _ ⟨⟩
  | clear =>
    refine ⟨{ state := st.clear }, fun _ _ => rfl, ?_⟩
    refine faithful_of_not_put h (fun _ _ => rfl) (List.forall_mem_nil _) rfl ?_
    rintro _ _ _ _ _ ⟨⟩
  | cleanupStale now =>
    refine ⟨{ state := st.cleanupStale now }, fun _ _ => rfl, ?_⟩
    refine faithful_of_not_put h (fun _ _ => rfl) (List.forall_mem_nil _) rfl ?_
    rintro _ _ _ _ _ ⟨⟩

/-- The accounts are right after any operations, and every one of them comes to its end and does what is promised. -/
theorem run_accounted (ops : List StorageOp) : (run step {} ops).Accounted ∧
    Steps step (fun st op => ∃ eff, st.Ends op eff ∧ Faithful st op eff) {} ops := by
  refine ⟨run_induction (I := Accounted) (fun _ op h => accounted_step h op) ops accounted_empty, ?_⟩
  have hany : Steps step (fun _ _ => True) {} ops := steps_of_forall (fun _ _ => trivial) _ ops
  exact steps_of_invariant (I := Accounted) (fun _ op h _ => accounted_step h op)
    (fun _ op h _ => exists_faithful h op) accounted_empty hany

/-! ## The put with a fixed choice -/

theorem oldestKey_le : ∀ {l : List (NodeId × Record)} {e : NodeId × Record}, oldestKey l = some e →
    ∀ e' ∈ l, e.2.createdAt ≤ e'.2.createdAt
  | [], _, h => by cases h
  | x :: l, e, h => by
    intro e' he'
    unfold oldestKey at h
    cases ho : oldestKey l with
    | none =>
      obtain rfl := Option.some.inj (by simpa only [ho] using h)
      rw [oldestKey_eq_none ho, List.mem_singleton] at he'
      rw [he']
    | some o =>
      simp only [ho] at h
      have hle := oldestKey_le ho
      split at h
      · obtain rfl := Option.some.inj h
        rcases List.mem_cons.1 he' with rfl | he'
        · omega
        · exact hle e' he'
      · obtain rfl := Option.some.inj h
        rcases List.mem_cons.1 he' with rfl | he'
        · exact le_rfl
        · exact (Nat.not_lt.1 (by assumption)).trans (hle e' he')

/-- Of the oldest records, the one stored first. -/
def storedFirst : Oldest where
  pick := oldestKey
  none_iff _ := ⟨oldestKey_eq_none, fun h => h ▸ rfl⟩
  mem := oldestKey_mem
  le := oldestKey_le

/-- With that choice, the loop leaves what `evict` leaves. -/
theorem state_evictLoop_storedFirst (hlen : len ≤ maxStorageBytes) : ∀ (rounds : Nat) {st : Storage} {eff : Effect},
    st.Accounted → st.data.list.length ≤ rounds → evictLoop storedFirst len (rounds + 1) st = some eff →
      eff.state = evict len rounds st
  | 0, st, eff, h, hrounds, heff => by
    have hroom := h.hasRoom_of_nil hlen (List.length_eq_zero_iff.1 (Nat.le_zero.1 hrounds))
    rw [evictLoop_of_hasRoom h hlen hroom (Nat.zero_lt_succ _), Option.some.injEq] at heff
    rw [← heff]
    rfl
  | rounds + 1, st, eff, h, hrounds, heff => by
    by_cases hroom : st.HasRoom len
    · rw [evictLoop_of_hasRoom h hlen hroom (Nat.zero_lt_succ _), Option.some.injEq] at heff
      rw [← heff, evict_of_hasRoom hroom]
    · cases hpick : oldestKey st.data.list with
      | none => exact absurd (h.hasRoom_of_nil hlen (oldestKey_eq_none hpick)) hroom
      | some e =>
        obtain ⟨-, -, hcount⟩ := remove_some (record?_of_mem (oldestKey_mem hpick))
        rw [evictLoop_of_not_hasRoom h hlen hroom hpick] at heff
        obtain ⟨rest, hrest, rfl⟩ := Option.map_eq_some_iff.1 heff
        rw [removed_state] at hrest
        have ih := state_evictLoop_storedFirst hlen rounds (h.remove e.1) (by omega) hrest
        unfold evict
        rw [if_pos (not_hasRoom_iff.1 hroom), hpick]
        exact ih

/-- The put of the rest of the model is this one, with that choice. -/
theorem step_put_storedFirst (h : st.Accounted) (key : NodeId) (value : Bytes) (ttl now : Nat) :
    step st (.put key value ttl now storedFirst) = st.put key value ttl now := by
  by_cases hv : value.length > maxStorageBytes
  · have hends : st.Ends (.put key value ttl now storedFirst) { state := st } :=
      fun fuel _ => effect?_put_oversized hv ..
    rw [hends.step_eq, st.put_oversized key ttl now hv]
  · have hle : value.length ≤ maxStorageBytes := Nat.not_lt.1 hv
    have hcleared : (st.removed key).state.Accounted := by
      rw [removed_state]
      exact h.remove key
    have hcount := st.length_removed_le key
    obtain ⟨loop, hloop, hfaithful⟩ := evictLoop_faithful storedFirst hle _ hcleared le_rfl
    have hstate := state_evictLoop_storedFirst hle _ hcleared le_rfl (hloop _ (Nat.lt_succ_self _))
    have hsum := value_of_exact (exact_of_hasRoom hfaithful.room)
    unfold step
    rw [effect?_put hle, hloop _ (by omega), Option.map_some]
    unfold put stored
    rw [if_neg hv]
    dsimp only
    rw [hsum, hstate, removed_state]

end Storage

end NodeX.Kad
