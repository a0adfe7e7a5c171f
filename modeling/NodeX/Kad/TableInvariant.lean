/-
The invariant of the routing table: buckets within their size, no id twice in the whole table, every contact in the
bucket of its id, never the node itself. What keeps it is each call on its own, and `replace_oldest` where it comes
directly after the `update` that found the bucket full. From it follows what `find_closest` returns.
-/
import NodeX.Kad.RoutingTable

namespace NodeX.Kad

open NodeX.Lib

namespace RoutingTable

/-! ## The invariant -/

/-- The ids that may be in a bucket together. -/
structure IdsFit (t : RoutingTable) (i : Fin numBuckets) (ids : List NodeId) : Prop where
  size : ids.length ≤ bucketSize
  nodup : ids.Nodup
  place : ∀ id ∈ ids, t.bucketIndex id = i ∧ id ≠ t.localId

/-- Every bucket holds ids that may be in it. -/
def WellFormed (t : RoutingTable) : Prop := ∀ i, t.IdsFit i (t.buckets.get i).ids

variable {t : RoutingTable} {i : Fin numBuckets} {ids ids' : List NodeId} {id : NodeId} {b : KBucket} {c : Contact}

theorem IdsFit.perm (h : t.IdsFit i ids) (hperm : ids'.Perm ids) : t.IdsFit i ids' where
  size := hperm.length_eq ▸ h.size
  nodup := hperm.nodup_iff.2 h.nodup
  place id hid := h.place id (hperm.mem_iff.1 hid)

theorem IdsFit.sublist (h : t.IdsFit i ids) (hsub : ids'.Sublist ids) : t.IdsFit i ids' where
  size := hsub.length_le.trans h.size
  nodup := h.nodup.sublist hsub
  place id hid := h.place id (hsub.subset hid)

/-- A new id of this bucket, while there is room. -/
theorem IdsFit.concat (h : t.IdsFit i ids) (hnot : id ∉ ids) (hroom : ids.length < bucketSize)
    (hplace : t.bucketIndex id = i) (hself : id ≠ t.localId) : t.IdsFit i (ids ++ [id]) where
  size := by
    rw [List.length_append, List.length_singleton]
    omega
  nodup := List.nodup_append.2 ⟨h.nodup, List.nodup_singleton _, by
    rintro x hx y hy rfl
    exact hnot (List.mem_singleton.1 hy ▸ hx)⟩
  place := by
    intro x hx
    rcases List.mem_append.1 hx with hx | hx
    · exact h.place x hx
    · rw [List.mem_singleton.1 hx]
      exact ⟨hplace, hself⟩

theorem wellFormed_new (localId : NodeId) : WellFormed { localId } := by
  intro i
  have hempty : ((RoutingTable.mk localId (.replicate numBuckets {})).buckets.get i).ids = [] := by
    show ((Vector.replicate numBuckets ({} : KBucket))[i.val]).ids = []
    rw [Vector.getElem_replicate]
    rfl
  show IdsFit _ i ((RoutingTable.mk localId (.replicate numBuckets {})).buckets.get i).ids
  rw [hempty]
  exact ⟨Nat.zero_le _, List.nodup_nil, List.forall_mem_nil _⟩

/-- Only one bucket changes. -/
theorem WellFormed.setBucket (h : t.WellFormed) (hb : t.IdsFit (t.bucketIndex id) b.ids) :
    (t.setBucket id b).WellFormed := by
  intro i
  rw [get_setBucket]
  split
  · rename_i hi
    rw [hi]
    exact ⟨hb.size, hb.nodup, hb.place⟩
  · exact ⟨(h i).size, (h i).nodup, (h i).place⟩

theorem WellFormed.grows (h : t.WellFormed) (hself : c.id ≠ t.localId) (hgrows : KBucket.Grows (t.bucket c.id) b c.id) :
    (t.setBucket c.id b).WellFormed := by
  have hbucket : t.IdsFit (t.bucketIndex c.id) (t.bucket c.id).ids := h _
  refine h.setBucket ?_
  rcases hgrows with hperm | ⟨hnot, hroom, hids⟩
  · exact hbucket.perm hperm
  · rw [hids]
    refine hbucket.concat hnot ?_ rfl hself
    unfold KBucket.ids
    rwa [List.length_map]

theorem WellFormed.update (h : t.WellFormed) (c : Contact) : (t.update c).1.WellFormed := by
  unfold RoutingTable.update
  split
  · exact h
  · rename_i hself
    split
    · exact h
    · exact h.grows hself (KBucket.grows_update _ c)

theorem WellFormed.forceUpdate (h : t.WellFormed) (c : Contact) : (t.forceUpdate c).1.WellFormed := by
  unfold RoutingTable.forceUpdate
  split
  · exact h
  · rename_i hself
    split
    · exact h
    · exact h.grows hself (KBucket.grows_forceUpdate _ c)

theorem WellFormed.remove (h : t.WellFormed) (id : NodeId) : (t.remove id).1.WellFormed :=
  h.setBucket ((h (t.bucketIndex id)).sublist (List.eraseP_sublist.map _))

/-- The head of a bucket makes room for a contact that is not in it. -/
theorem WellFormed.replaceOldest (h : t.WellFormed) (hself : c.id ≠ t.localId) (hnot : c.id ∉ (t.bucket c.id).ids)
    (hsome : (t.bucket c.id).contacts ≠ []) : (t.replaceOldest c).WellFormed := by
  have hbucket : t.IdsFit (t.bucketIndex c.id) (t.bucket c.id).ids := h _
  have hsub : ((t.bucket c.id).contacts.tail.map Contact.id).Sublist (t.bucket c.id).ids :=
    (List.tail_sublist _).map _
  have hlen := List.length_pos_of_ne_nil hsome
  have hsize := hbucket.size
  refine h.setBucket ?_
  show t.IdsFit (t.bucketIndex c.id) (((t.bucket c.id).contacts.tail ++ [c]).map Contact.id)
  rw [List.map_append]
  refine (hbucket.sublist hsub).concat (fun hmem => hnot (hsub.subset hmem)) ?_ rfl hself
  unfold KBucket.ids at hsize
  rw [List.length_map] at hsize ⊢
  rw [List.length_tail]
  omega

/-! ## What follows from it -/

theorem WellFormed.place (h : t.WellFormed) {c : Contact} (hc : c ∈ (t.buckets.get i).contacts) :
    t.bucketIndex c.id = i ∧ c.id ≠ t.localId := (h i).place c.id (List.mem_map_of_mem hc)

theorem WellFormed.mem_allContacts (h : t.WellFormed) : c ∈ t.allContacts ↔ c ∈ (t.bucket c.id).contacts := by
  rw [RoutingTable.mem_allContacts]
  constructor
  · rintro ⟨i, hc⟩
    unfold bucket
    rwa [(h.place hc).1]
  · intro hc
    exact ⟨_, hc⟩

/-- No id is in two buckets, as its bucket is told by the id. -/
theorem WellFormed.nodup_allContacts (h : t.WellFormed) : (t.allContacts.map Contact.id).Nodup := by
  have hids : t.allContacts.map Contact.id = t.buckets.toList.flatMap KBucket.ids := List.map_flatMap
  rw [hids, List.nodup_flatMap]
  constructor
  · intro b hb
    obtain ⟨i, hi, rfl⟩ := Vector.getElem_of_mem (Vector.mem_toList_iff.1 hb)
    exact (h ⟨i, hi⟩).nodup
  · rw [List.pairwise_iff_getElem]
    intro i j hi hj hij x hxi hxj
    simp only [Vector.getElem_toList, Vector.length_toList] at hi hj hxi hxj
    have hplacei := ((h ⟨i, hi⟩).place x hxi).1
    have hplacej := ((h ⟨j, hj⟩).place x hxj).1
    have heq := congrArg Fin.val (hplacei.symm.trans hplacej)
    dsimp only at heq
    omega

theorem WellFormed.nodup_distances (h : t.WellFormed) (target : NodeId) :
    (t.allContacts.map fun c => c.id.distance target).Nodup := by
  have hmap := h.nodup_allContacts.map (f := fun id : NodeId => id.distance target) fun a b hab =>
    NodeId.distance_inj hab
  rwa [List.map_map] at hmap

/-- `found` is the `count` contacts nearest to the target, nearest first. -/
structure Closest (t : RoutingTable) (target : NodeId) (count : Nat) (found : List Contact) : Prop where
  length : found.length = min count t.totalContacts
  known : ∀ c ∈ found, c ∈ t.allContacts
  increasing : found.Pairwise fun a b => a.id.distance target < b.id.distance target
  nearest : ∀ c ∈ t.allContacts, c ∉ found → ∀ c' ∈ found, c'.id.distance target < c.id.distance target

theorem WellFormed.closest_findClosest (h : t.WellFormed) (target : NodeId) (count : Nat) :
    t.Closest target count (t.findClosest target count) where
  length := by
    unfold findClosest
    rw [length_nearest, length_allContacts]
  known c hc := mem_of_mem_nearest _ hc
  increasing := pairwise_lt_nearest _ (h.nodup_distances target) count
  nearest c hc hnot c' hc' := lt_of_not_mem_nearest _ (h.nodup_distances target) hc' hc hnot

/-- `update` keeps every contact with its address, and brings no second one with its id. -/
theorem mem_update (hc : c ∈ t.allContacts) (c' : Contact) : c ∈ (t.update c').1.allContacts := by
  unfold RoutingTable.update
  split
  · exact hc
  · split
    · exact hc
    · obtain ⟨i, hi⟩ := t.mem_allContacts.1 hc
      rw [RoutingTable.mem_allContacts]
      refine ⟨i, ?_⟩
      rw [get_setBucket]
      split
      · rename_i hplace
        subst hplace
        rcases KBucket.update_cases (t.bucket c'.id) c' with ⟨-, -, hperm⟩ | ⟨-, -, h⟩ | ⟨-, -, oldest, rest, -, h⟩
        · exact hperm.mem_iff.2 hi
        · rw [h]
          exact List.mem_append_left _ hi
        · rw [h]
          exact hi
      · exact hi

/-! ## Calls -/

inductive TableCall where
  | update (contact : Contact)
  | forceUpdate (contact : Contact)
  | remove (id : NodeId)
  | replaceOldest (newContact : Contact)
deriving DecidableEq

/-- A table under calls, with the contact whose `update`, if that was the last call, found its bucket full. -/
structure Called where
  table : RoutingTable
  refused : Option Contact := none

namespace Called

def step (s : Called) : TableCall → Called
  | .update c =>
    let updated := s.table.update c
    { table := updated.1
      refused := match updated.2 with
        | .full _ => some c
        | _ => none }
  | .forceUpdate c => { table := (s.table.forceUpdate c).1 }
  | .remove id => { table := (s.table.remove id).1 }
  | .replaceOldest c => { table := s.table.replaceOldest c }

/-- `replace_oldest` is called with the contact that `update` just refused. -/
def Directly (s : Called) : TableCall → Prop
  | .replaceOldest c => s.refused = some c
  | _ => True

instance (s : Called) : ∀ call : TableCall, Decidable (s.Directly call)
  | .replaceOldest c => inferInstanceAs (Decidable (s.refused = some c))
  | .update _ | .forceUpdate _ | .remove _ => isTrue trivial

/-- The table is well formed, and a contact that was refused can replace the head of its bucket. -/
structure Ok (s : Called) : Prop where
  table : s.table.WellFormed
  refused : ∀ c, s.refused = some c → c.id ≠ s.table.localId ∧ c.id ∉ (s.table.bucket c.id).ids ∧
    (s.table.bucket c.id).contacts ≠ []

theorem Ok.step {s : Called} (h : s.Ok) (call : TableCall) (hcall : s.Directly call) : (s.step call).Ok := by
  cases call with
  | update c =>
    refine ⟨h.table.update c, ?_⟩
    intro c' hc'
    cases hres : (s.table.update c).2 with
    | full oldest =>
      obtain ⟨htable, hself, -, hnot, -, hhead⟩ := update_full hres
      simp only [Called.step, hres, Option.some.injEq] at hc'
      subst hc'
      show c.id ≠ (s.table.update c).1.localId ∧ c.id ∉ ((s.table.update c).1.bucket c.id).ids ∧
        ((s.table.update c).1.bucket c.id).contacts ≠ []
      rw [htable]
      refine ⟨hself, hnot, ?_⟩
      intro hnil
      rw [hnil] at hhead
      cases hhead
    | inserted => simp [Called.step, hres] at hc'
    | updated => simp [Called.step, hres] at hc'
    | selfIgnored => simp [Called.step, hres] at hc'
  | forceUpdate c => exact ⟨h.table.forceUpdate c, fun c' hc' => by cases hc'⟩
  | remove id => exact ⟨h.table.remove id, fun c' hc' => by cases hc'⟩
  | replaceOldest c =>
    obtain ⟨hself, hnot, hsome⟩ := h.refused c hcall
    exact ⟨h.table.replaceOldest hself hnot hsome, fun c' hc' => by cases hc'⟩

end Called

/-- What holds of a table at any time. -/
structure Sound (t : RoutingTable) : Prop where
  size : ∀ i, (t.buckets.get i).contacts.length ≤ bucketSize
  unique : (t.allContacts.map Contact.id).Nodup
  place : ∀ i, ∀ c ∈ (t.buckets.get i).contacts, t.bucketIndex c.id = i
  notSelf : ∀ c ∈ t.allContacts, c.id ≠ t.localId
  keepsAddr : ∀ c ∈ t.allContacts, ∀ c', c ∈ (t.update c').1.allContacts ∧
    ∀ c'' ∈ (t.update c').1.allContacts, c''.id = c.id → c''.addr = c.addr
  closest : ∀ target count, t.Closest target count (t.findClosest target count)

theorem WellFormed.sound (h : t.WellFormed) : t.Sound where
  size i := by
    have hsize := (h i).size
    unfold KBucket.ids at hsize
    rwa [List.length_map] at hsize
  unique := h.nodup_allContacts
  place i c hc := (h.place hc).1
  notSelf c hc := (h.place (h.mem_allContacts.1 hc)).2
  keepsAddr c hc c' := by
    have hkept := mem_update hc c'
    refine ⟨hkept, ?_⟩
    intro c'' hc'' hid
    rw [List.inj_on_of_nodup_map (h.update c').nodup_allContacts hc'' hkept hid]
  closest := h.closest_findClosest

/-- After any calls in which `replace_oldest` directly follows the `update` that refused its contact, the table is
sound. -/
theorem run_tableSound (localId : NodeId) (calls : List TableCall)
    (h : Steps Called.step Called.Directly { table := { localId } } calls) :
    (run Called.step { table := { localId } } calls).table.Sound := by
  have hstart : Called.Ok { table := { localId } } := ⟨wellFormed_new localId, fun c hc => by cases hc⟩
  exact (run_invariant (I := Called.Ok) (fun s call hs hcall => hs.step call hcall) hstart h).table.sound

section Sample

def zeroId : NodeId := ⟨List.replicate 20 0, rfl⟩

/-- The ids with the first bit set, told apart by the last byte; they share a bucket of `zeroId`. -/
def farContact (b : UInt8) : Contact where
  id := ⟨128 :: List.replicate 18 0 ++ [b], rfl⟩
  addr := { ip := .v4 #v[10, 0, 0, b], port := 9000 }

/-- Twenty contacts fill a bucket, and the next one replaces the head. -/
def fillAndReplace : List TableCall :=
  (List.range 20).map (fun n => .update (farContact (UInt8.ofNat n))) ++
    [.update (farContact 20), .replaceOldest (farContact 20), .remove (farContact 7).id, .forceUpdate (farContact 8)]

theorem run_tableSound_replaced : (run Called.step { table := { localId := zeroId } } fillAndReplace).table.Sound :=
  run_tableSound zeroId fillAndReplace (by decide +kernel)

end Sample

end RoutingTable

end NodeX.Kad
