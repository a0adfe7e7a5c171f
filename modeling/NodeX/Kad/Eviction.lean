/-
The routing table as its tasks share it. The receive loop, the lookups and the presence cards update it; where an
update finds a bucket full, a task of its own pings the head of the bucket, for up to six seconds, and when that fails
lets the new contact replace whatever is at the head by then.

The outcome of a ping is the network's. Everything that happens while it is on its way is an event of its own.
-/
import NodeX.Kad.TableInvariant

namespace NodeX.Kad

open NodeX.Lib

/-! ## Events -/

/-- A ping on its way: the contact that was at the head of the bucket, and the one that wants its place. -/
structure Eviction where
  oldest : Contact
  contact : Contact
deriving DecidableEq

structure SharedTable where
  table : RoutingTable
  evictions : List Eviction := []
deriving DecidableEq

inductive TableEvent where
  /-- The receive loop with a message; whether a request slot is free for a ping. -/
  | received (msg : RpcMessage) (srcAddr : SocketAddr) (slot : Bool)
  /-- A lookup, a bootstrap or the restored state updates the table. -/
  | learned (contact : Contact)
  /-- The address of a verified presence card. -/
  | verified (contact : Contact)
  /-- The ping of the `i`-th eviction on its way ends. -/
  | pinged (i : Nat) (failed : Bool)
deriving DecidableEq

namespace SharedTable

def received (s : SharedTable) (msg : RpcMessage) (srcAddr : SocketAddr) (slot : Bool) : SharedTable :=
  let contact : Contact := { id := msg.senderId, addr := srcAddr }
  let updated := s.table.update contact
  match updated.2 with
  | .full oldest =>
    { table := updated.1, evictions := if slot then s.evictions ++ [{ oldest, contact }] else s.evictions }
  | _ => { s with table := updated.1 }

def pinged (s : SharedTable) (i : Nat) (failed : Bool) : SharedTable :=
  match s.evictions[i]? with
  | none => s
  | some e =>
    { table := if failed then s.table.replaceOldest e.contact else s.table, evictions := s.evictions.eraseIdx i }

def step (s : SharedTable) : TableEvent → SharedTable
  | .received msg srcAddr slot => s.received msg srcAddr slot
  | .learned contact => { s with table := (s.table.update contact).1 }
  | .verified contact => { s with table := (s.table.forceUpdate contact).1 }
  | .pinged i failed => s.pinged i failed

/-- The eviction whose ping fails in this event. -/
def failing? (s : SharedTable) : TableEvent → Option Eviction
  | .pinged i true => s.evictions[i]?
  | _ => none

/-! ## Races -/

/-- What `replace_oldest` takes out is the contact whose ping failed. -/
def EvictsPinged (s : SharedTable) (ev : TableEvent) : Prop :=
  ∀ e ∈ s.failing? ev, ∀ evicted ∈ (s.table.bucket e.contact.id).contacts.head?, evicted = e.oldest

/-- No bucket holds two contacts with one id. -/
def NoTwins (t : RoutingTable) : Prop := ∀ i, (t.buckets.get i).ids.Nodup

instance (t : RoutingTable) : Decidable (NoTwins t) := inferInstanceAs (Decidable (∀ i, (t.buckets.get i).ids.Nodup))

instance (s : SharedTable) (ev : TableEvent) : Decidable (s.EvictsPinged ev) :=
  inferInstanceAs (Decidable (∀ e ∈ s.failing? ev, ∀ evicted ∈ (s.table.bucket e.contact.id).contacts.head?,
    evicted = e.oldest))

/-- When a ping fails, the contact it was sent to is still at the head of its bucket, and the new contact has not got
into the bucket meanwhile. -/
def StillDue (s : SharedTable) (ev : TableEvent) : Prop :=
  ∀ e ∈ s.failing? ev, (s.table.bucket e.contact.id).contacts.head? = some e.oldest ∧
    e.contact.id ∉ (s.table.bucket e.contact.id).ids

/-! ## What is on its way -/

/-- What was true when a ping was sent and stays so: the bucket is full, the two contacts differ, and the new one may
be in the table. -/
structure Waiting (t : RoutingTable) (e : Eviction) : Prop where
  differ : e.oldest.id ≠ e.contact.id
  notSelf : e.contact.id ≠ t.localId
  usable : e.contact.unusable = false
  full : bucketSize ≤ (t.bucket e.contact.id).contacts.length

variable {t t' : RoutingTable} {s : SharedTable} {e : Eviction} {c : Contact}

theorem Waiting.mono (h : Waiting t e) (hid : t'.localId = t.localId)
    (hlen : ∀ id, (t.bucket id).contacts.length ≤ (t'.bucket id).contacts.length) : Waiting t' e where
  differ := h.differ
  notSelf := hid ▸ h.notSelf
  usable := h.usable
  full := h.full.trans (hlen _)

theorem waiting_of_full {oldest : Contact} (h : (t.update c).2 = .full oldest) :
    Waiting t { oldest, contact := c } := by
  obtain ⟨-, hself, husable, hnot, hfull, hhead⟩ := RoutingTable.update_full h
  refine ⟨?_, hself, husable, hfull⟩
  intro hid
  have hmem : oldest.id ∈ (t.bucket c.id).ids := List.mem_map_of_mem (List.mem_of_mem_head? hhead)
  exact hnot (hid ▸ hmem)

/-- Whoever waits for the table `t` waits for what comes of it. -/
def Kept (t t' : RoutingTable) : Prop :=
  t'.localId = t.localId ∧ ∀ id, (t.bucket id).contacts.length ≤ (t'.bucket id).contacts.length

theorem kept_refl (t : RoutingTable) : Kept t t := ⟨rfl, fun _ => le_rfl⟩

theorem kept_setBucket {id : NodeId} {b : KBucket} (hlen : (t.bucket id).contacts.length ≤ b.contacts.length) :
    Kept t (t.setBucket id b) := by
  refine ⟨rfl, ?_⟩
  intro id'
  show _ ≤ ((t.setBucket id b).buckets.get (t.bucketIndex id')).contacts.length
  rw [RoutingTable.get_setBucket]
  split
  · rename_i hplace
    unfold RoutingTable.bucket at hlen ⊢
    rw [hplace]
    exact hlen
  · exact le_rfl

theorem length_of_grows {b b' : KBucket} {id : NodeId} (h : KBucket.Grows b b' id) :
    b.contacts.length ≤ b'.contacts.length := by
  have hids : b.ids.length ≤ b'.ids.length := by
    rcases h with hperm | ⟨-, -, h⟩
    · exact hperm.length_eq.ge
    · rw [h, List.length_append]
      omega
  unfold KBucket.ids at hids
  rwa [List.length_map, List.length_map] at hids

theorem kept_update (t : RoutingTable) (c : Contact) : Kept t (t.update c).1 := by
  unfold RoutingTable.update
  split
  · exact kept_refl t
  · split
    · exact kept_refl t
    · exact kept_setBucket (length_of_grows (KBucket.grows_update _ c))

theorem kept_forceUpdate (t : RoutingTable) (c : Contact) : Kept t (t.forceUpdate c).1 := by
  unfold RoutingTable.forceUpdate
  split
  · exact kept_refl t
  · split
    · exact kept_refl t
    · exact kept_setBucket (length_of_grows (KBucket.grows_forceUpdate _ c))

theorem kept_replaceOldest (t : RoutingTable) (c : Contact) : Kept t (t.replaceOldest c) := by
  refine kept_setBucket ?_
  unfold KBucket.replaceOldest
  rw [List.length_append, List.length_tail, List.length_singleton]
  omega

/-- Every eviction on its way waits. -/
def AllWaiting (s : SharedTable) : Prop := ∀ e ∈ s.evictions, Waiting s.table e

theorem AllWaiting.of_kept {evictions : List Eviction} (h : s.AllWaiting) (hkept : Kept s.table t')
    (hsub : ∀ e ∈ evictions, e ∈ s.evictions) : AllWaiting { table := t', evictions } :=
  fun e he => (h e (hsub e he)).mono hkept.1 hkept.2

theorem AllWaiting.step (h : s.AllWaiting) (ev : TableEvent) : (s.step ev).AllWaiting := by
  cases ev with
  | received msg srcAddr slot =>
    show (s.received msg srcAddr slot).AllWaiting
    unfold received
    dsimp only
    cases hres : (s.table.update { id := msg.senderId, addr := srcAddr }).2 with
    | full oldest =>
      rw [(RoutingTable.update_full hres).1]
      cases slot with
      | false => exact h
      | true =>
        intro e he
        rcases List.mem_append.1 he with he | he
        · exact h e he
        · rw [List.mem_singleton.1 he]
          exact waiting_of_full hres
    | inserted => exact h.of_kept (kept_update _ _) fun _ he => he
    | updated => exact h.of_kept (kept_update _ _) fun _ he => he
    | selfIgnored => exact h.of_kept (kept_update _ _) fun _ he => he
  | learned contact => exact h.of_kept (kept_update _ _) fun _ he => he
  | verified contact => exact h.of_kept (kept_forceUpdate _ _) fun _ he => he
  | pinged i failed =>
    show (s.pinged i failed).AllWaiting
    unfold pinged
    split
    · exact h
    · refine h.of_kept ?_ fun e he => List.mem_of_mem_eraseIdx he
      split
      · exact kept_replaceOldest _ _
      · exact kept_refl _

/-! ## Runs without races -/

theorem mem_evictions_of_failing? {ev : TableEvent} (h : e ∈ s.failing? ev) : e ∈ s.evictions := by
  cases ev with
  | pinged i failed =>
    cases failed with
    | true => exact List.mem_of_getElem? h
    | false => cases h
  | received msg srcAddr slot => cases h
  | learned contact => cases h
  | verified contact => cases h

/-- Of a message, the table takes its sender. -/
theorem table_received (msg : RpcMessage) (srcAddr : SocketAddr) (slot : Bool) :
    (s.received msg srcAddr slot).table = (s.table.update { id := msg.senderId, addr := srcAddr }).1 := by
  unfold received
  dsimp only
  split <;> rfl

/-- A step either evicts or keeps the table well formed. -/
theorem table_step (hw : s.table.WellFormed) (ev : TableEvent) :
    (s.failing? ev = none ∧ (s.step ev).table.WellFormed) ∨
      ∃ e, s.failing? ev = some e ∧ (s.step ev).table = s.table.replaceOldest e.contact := by
  cases ev with
  | received msg srcAddr slot =>
    refine .inl ⟨rfl, ?_⟩
    show (s.received msg srcAddr slot).table.WellFormed
    rw [table_received]
    exact hw.update _
  | learned contact => exact .inl ⟨rfl, hw.update _⟩
  | verified contact => exact .inl ⟨rfl, hw.forceUpdate _⟩
  | pinged i failed =>
    have hstep : s.step (.pinged i failed) = s.pinged i failed := rfl
    cases he : s.evictions[i]? with
    | none =>
      refine .inl ⟨?_, ?_⟩
      · cases failed with
        | true => exact he
        | false => rfl
      · rw [hstep, pinged, he]
        exact hw
    | some e =>
      cases failed with
      | true => exact .inr ⟨e, he, by rw [hstep, pinged, he]; rfl⟩
      | false => exact .inl ⟨rfl, by rw [hstep, pinged, he]; exact hw⟩

/-- The new contact at the end of the bucket is no twin exactly if it was not in the bucket. -/
theorem not_mem_ids_of_noTwins (hdiffer : e.oldest.id ≠ e.contact.id)
    (hhead : (s.table.bucket e.contact.id).contacts.head? = some e.oldest)
    (h : NoTwins (s.table.replaceOldest e.contact)) : e.contact.id ∉ (s.table.bucket e.contact.id).ids := by
  have hnodup := h (s.table.bucketIndex e.contact.id)
  unfold RoutingTable.replaceOldest at hnodup
  rw [RoutingTable.get_setBucket, if_pos rfl] at hnodup
  unfold KBucket.ids KBucket.replaceOldest at hnodup
  unfold KBucket.ids
  cases hcontacts : (s.table.bucket e.contact.id).contacts with
  | nil => exact List.not_mem_nil
  | cons head rest =>
    rw [hcontacts] at hhead hnodup
    obtain rfl : head = e.oldest := Option.some.inj hhead
    rw [List.tail_cons, List.map_append, List.map_singleton, List.nodup_append] at hnodup
    rw [List.map_cons, List.mem_cons, not_or]
    refine ⟨Ne.symm hdiffer, ?_⟩
    intro hmem
    exact hnodup.2.2 _ hmem _ (List.mem_singleton_self _) rfl

/-- A step is free of races exactly if the ping that fails in it is still due. -/
theorem raceFree_iff (hw : s.table.WellFormed) (hwait : s.AllWaiting) (ev : TableEvent) :
    s.EvictsPinged ev ∧ NoTwins (s.step ev).table ↔ s.StillDue ev := by
  rcases table_step hw ev with ⟨hnone, hwf⟩ | ⟨e, hsome, htable⟩
  · refine iff_of_true ⟨?_, fun i => (hwf i).nodup⟩ ?_
    · intro e he
      rw [hnone] at he
      cases he
    · intro e he
      rw [hnone] at he
      cases he
  · have hw' := hwait e (mem_evictions_of_failing? (Option.mem_def.2 hsome))
    constructor
    · rintro ⟨hevicts, htwins⟩ e' he'
      obtain rfl : e = e' := Option.some.inj (hsome.symm.trans he')
      have hhead : (s.table.bucket e.contact.id).contacts.head? = some e.oldest := by
        cases hcontacts : (s.table.bucket e.contact.id).contacts with
        | nil =>
          have hfull := hw'.full
          rw [hcontacts] at hfull
          exact absurd hfull (by decide)
        | cons head rest =>
          have heq := hevicts e hsome head (by rw [hcontacts]; rfl)
          rw [heq]
          rfl
      rw [htable] at htwins
      exact ⟨hhead, not_mem_ids_of_noTwins hw'.differ hhead htwins⟩
    · intro hdue
      obtain ⟨hhead, hnot⟩ := hdue e hsome
      constructor
      · intro e' he' evicted hev
        obtain rfl : e = e' := Option.some.inj (hsome.symm.trans he')
        rw [hhead] at hev
        exact (Option.some.inj hev).symm
      · rw [htable]
        have hsome : (s.table.bucket e.contact.id).contacts ≠ [] := by
          intro hnil
          rw [hnil] at hhead
          cases hhead
        exact fun i => (hw.replaceOldest hw'.notSelf hnot hsome i).nodup

theorem wellFormed_step (hw : s.table.WellFormed) (hwait : s.AllWaiting) (ev : TableEvent) (hdue : s.StillDue ev) :
    (s.step ev).table.WellFormed := by
  rcases table_step hw ev with ⟨-, hwf⟩ | ⟨e, hsome, htable⟩
  · exact hwf
  · have hw' := hwait e (mem_evictions_of_failing? (Option.mem_def.2 hsome))
    obtain ⟨hhead, hnot⟩ := hdue e hsome
    rw [htable]
    refine hw.replaceOldest hw'.notSelf hnot ?_
    intro hnil
    rw [hnil] at hhead
    cases hhead

/-- Whatever is received, learned and pinged in between: every step of a run evicts only the contact whose ping failed
and leaves no twins, exactly if every ping that fails is still due when it does. -/
theorem run_raceFree_iff (localId : NodeId) (evs : List TableEvent) :
    Steps step (fun s ev => s.EvictsPinged ev ∧ NoTwins (s.step ev).table) { table := { localId } } evs ↔
      Steps step StillDue { table := { localId } } evs := by
  refine steps_iff_of_invariant (I := fun s => s.table.WellFormed ∧ s.AllWaiting) ?_ ?_ evs ⟨?_, ?_⟩
  · intro s ev h
    exact raceFree_iff h.1 h.2 ev
  · intro s ev h hfree
    exact ⟨wellFormed_step h.1 h.2 ev ((raceFree_iff h.1 h.2 ev).1 hfree), h.2.step ev⟩
  · exact RoutingTable.wellFormed_new localId
  · intro e he
    cases he

section Sample

open RoutingTable

/-- A sender for whom a full bucket has no place. -/
def knock : TableEvent :=
  .received { requestId := 1, senderId := (farContact 20).id, payload := .ping } (farContact 20).addr true

/-- It sends twice before the first ping has failed; both pings were sent to the contact at the head. -/
def knockedTwice : List TableEvent :=
  (List.range 20).map (fun n => .learned (farContact (UInt8.ofNat n))) ++
    [knock, knock, .pinged 0 true, .pinged 0 true]

/-- The second ping takes out a contact nobody pinged, for one that is in the bucket already. -/
theorem run_raceFree_knockedTwice : ¬NoTwins (run step { table := { localId := zeroId } } knockedTwice).table ∧
    ¬Steps step EvictsPinged { table := { localId := zeroId } } knockedTwice := by
  decide +kernel

end Sample

end SharedTable

end NodeX.Kad
