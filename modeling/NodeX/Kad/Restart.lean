/-
`lib.rs`: a node that saves its table to the state file and is started from it again. What is saved is `all_contacts`,
what is restored goes through `update` one contact after the other, and contacts learned in between are lost. An IPv6
address in the table ends the list, so that what comes back is what stands in front of it.
-/
import NodeX.Kad.StateFile
import NodeX.Kad.TableInvariant
import NodeX.Lib.Sorted

namespace NodeX.Kad

open NodeX.Lib

/-! ## Saving and starting -/

def Contact.isV4 (c : Contact) : Bool :=
  match c.addr.ip with
  | .v4 _ => true
  | .v6 _ => false

/-- A contact as it is printed; what is in a table has no scope. -/
def Contact.saved (c : Contact) : StateContact where
  id := c.id
  addr := match c.addr.ip with
    | .v4 o => .v4 o c.addr.port
    | .v6 o => .v6 o c.addr.port 0 0

def StateContact.contact (c : StateContact) : Contact := { id := c.id, addr := c.addr.plain }

/-- The text that `save_state` writes. -/
def RoutingTable.saveState (t : RoutingTable) : String := Kad.saveState t.localId (t.allContacts.map Contact.saved)

/-- The table of `init_node`. -/
def initNode (nodeId : NodeId) (restoredContacts : List Contact) : RoutingTable :=
  restoredContacts.foldl (fun t c => (t.update c).1) { localId := nodeId }

/-- `start_with_config`, as far as the table: the state file if there is one, and the id that would be drawn. -/
def startWithConfig (file : Option String) (random : NodeId) : Outcome RoutingTable :=
  (loadOrCreateIdentity (file.map .ok) random).map fun (nodeId, contacts) =>
    initNode nodeId (contacts.map StateContact.contact)

/-! ## Replaying contacts -/

theorem Contact.contact_saved (c : Contact) : c.saved.contact = c := by
  rcases c with ⟨id, ⟨ip | ip, port⟩⟩
  · rfl
  · rfl

theorem Contact.isV4_saved (c : Contact) : Kad.isV4 c.saved.addr = c.isV4 := by
  rcases c with ⟨id, ⟨ip | ip, port⟩⟩
  · rfl
  · rfl

namespace RoutingTable

variable {t : RoutingTable}

theorem get_new (localId : NodeId) (i : Fin numBuckets) : ({ localId } : RoutingTable).buckets.get i = {} :=
  Vector.getElem_replicate i.isLt

/-- `cs` can be added to the table one after the other. -/
structure Fits (t : RoutingTable) (cs : List Contact) : Prop where
  fresh : ∀ c ∈ cs, c.id ∉ (t.bucket c.id).ids
  nodup : (cs.map Contact.id).Nodup
  usable : ∀ c ∈ cs, c.id ≠ t.localId ∧ c.unusable = false
  room : ∀ i, (t.buckets.get i).contacts.length + cs.countP (fun c => t.bucketIndex c.id = i) ≤ bucketSize

/-- A contact that is not known goes to the end of its bucket while there is room. -/
theorem update_fresh {c : Contact} (hself : c.id ≠ t.localId) (husable : c.unusable = false)
    (hfresh : c.id ∉ (t.bucket c.id).ids) (hroom : (t.bucket c.id).contacts.length < bucketSize) :
    (t.update c).1 = t.setBucket c.id ⟨(t.bucket c.id).contacts ++ [c]⟩ := by
  unfold update
  rw [if_neg hself, husable, if_neg Bool.false_ne_true]
  rcases (t.bucket c.id).update_cases c with ⟨h, -⟩ | ⟨-, -, h⟩ | ⟨-, h, -⟩
  · exact absurd h hfresh
  · rw [h]
  · omega

theorem Fits.head {c : Contact} {cs : List Contact} (h : t.Fits (c :: cs)) :
    (t.update c).1 = t.setBucket c.id ⟨(t.bucket c.id).contacts ++ [c]⟩ := by
  obtain ⟨hself, husable⟩ := h.usable c List.mem_cons_self
  refine update_fresh hself husable (h.fresh c List.mem_cons_self) ?_
  have hroom := h.room (t.bucketIndex c.id)
  rw [List.countP_cons_of_pos (by simp)] at hroom
  unfold bucket
  omega

theorem Fits.tail {c : Contact} {cs : List Contact} (h : t.Fits (c :: cs)) :
    (t.setBucket c.id ⟨(t.bucket c.id).contacts ++ [c]⟩).Fits cs where
  fresh c' hc' := by
    have hne : c'.id ≠ c.id := by
      intro heq
      exact (List.nodup_cons.1 h.nodup).1 (heq ▸ List.mem_map_of_mem hc')
    have hfresh := h.fresh c' (List.mem_cons_of_mem _ hc')
    show c'.id ∉ ((t.setBucket c.id _).buckets.get (t.bucketIndex c'.id)).ids
    rw [get_setBucket]
    split
    · rename_i hi
      unfold bucket at hfresh ⊢
      unfold KBucket.ids at hfresh ⊢
      rw [hi] at hfresh
      simp only [List.map_append, List.map_cons, List.map_nil, List.mem_append, List.mem_singleton, not_or]
      exact ⟨hfresh, hne⟩
    · exact hfresh
  nodup := (List.nodup_cons.1 h.nodup).2
  usable c' hc' := h.usable c' (List.mem_cons_of_mem _ hc')
  room i := by
    have hroom := h.room i
    have hindex : (fun c' : Contact => decide ((t.setBucket c.id ⟨(t.bucket c.id).contacts ++ [c]⟩).bucketIndex c'.id =
        i)) = fun c' => decide (t.bucketIndex c'.id = i) := rfl
    rw [get_setBucket, hindex]
    rw [List.countP_cons] at hroom
    split
    · rename_i hi
      rw [hi] at hroom ⊢
      rw [if_pos (by simp)] at hroom
      unfold bucket
      rw [List.length_append, List.length_singleton]
      omega
    · exact le_trans (by omega) hroom

/-- Contacts that fit each go to the end of their bucket, in the order they come in. -/
theorem foldl_update : ∀ {cs : List Contact} {t : RoutingTable}, t.Fits cs → ∀ i,
    ((cs.foldl (fun t c => (t.update c).1) t).buckets.get i).contacts =
      (t.buckets.get i).contacts ++ cs.filter fun c => t.bucketIndex c.id = i
  | [], t, _, i => by simp
  | c :: cs, t, h, i => by
    have htail := foldl_update h.tail i
    have hindex : (fun c' : Contact => decide ((t.setBucket c.id ⟨(t.bucket c.id).contacts ++ [c]⟩).bucketIndex c'.id =
        i)) = fun c' => decide (t.bucketIndex c'.id = i) := rfl
    rw [List.foldl_cons, h.head, htail, get_setBucket, hindex]
    by_cases hi : t.bucketIndex c.id = i
    · rw [if_pos hi.symm, List.filter_cons_of_pos (by simp [hi]), List.append_assoc]
      unfold bucket
      rw [hi]
      rfl
    · rw [if_neg fun heq => hi heq.symm, List.filter_cons_of_neg (by simp [hi])]

theorem foldl_update_localId : ∀ (cs : List Contact) (t : RoutingTable),
    (cs.foldl (fun t c => (t.update c).1) t).localId = t.localId
  | [], _ => rfl
  | c :: cs, t => by
    rw [List.foldl_cons, foldl_update_localId cs]
    unfold update
    split
    · rfl
    · split
      · rfl
      · rfl

/-! ## What comes back -/

/-- Everything in the table went through the checks of `update`. -/
def Usable (t : RoutingTable) : Prop := ∀ i, ∀ c ∈ (t.buckets.get i).contacts, c.unusable = false

theorem mem_takeWhile_allContacts {c : Contact} {p : Contact → Bool} (h : c ∈ t.allContacts.takeWhile p) :
    c ∈ t.allContacts := (List.takeWhile_sublist p).subset h

/-- The buckets one after the other. -/
theorem allContacts_eq (t : RoutingTable) :
    t.allContacts = (List.finRange numBuckets).flatMap fun i => (t.buckets.get i).contacts := by
  have hlist : t.buckets.toList = (List.finRange numBuckets).map t.buckets.get := by
    refine List.ext_getElem ?_ ?_
    · rw [List.length_map, List.length_finRange, Vector.length_toList]
    · intro i hi hi'
      rw [List.getElem_map, List.getElem_finRange, Vector.getElem_toList]
      rfl
  unfold allContacts
  rw [hlist, List.flatMap_map]

theorem WellFormed.sorted_allContacts (h : t.WellFormed) :
    t.allContacts.Pairwise fun a b => t.bucketIndex a.id ≤ t.bucketIndex b.id := by
  rw [allContacts_eq]
  exact pairwise_flatMap_finRange (f := fun c : Contact => t.bucketIndex c.id) fun i c hc => (h.place hc).1

/-- Of all contacts, those of one bucket are that bucket. -/
theorem WellFormed.filter_allContacts (h : t.WellFormed) (i : Fin numBuckets) :
    (t.allContacts.filter fun c => t.bucketIndex c.id = i) = (t.buckets.get i).contacts := by
  have hfilter : ∀ j, ((t.buckets.get j).contacts.filter fun c => t.bucketIndex c.id = i) =
      if j = i then (t.buckets.get j).contacts else [] := by
    intro j
    split
    · rename_i hj
      rw [List.filter_eq_self]
      intro c hc
      exact decide_eq_true ((h.place hc).1.trans hj)
    · rename_i hj
      rw [List.filter_eq_nil_iff]
      intro c hc hi
      exact hj ((h.place hc).1.symm.trans (of_decide_eq_true hi))
  rw [allContacts_eq, List.filter_flatMap]
  simp only [hfilter]
  have hmem := List.mem_finRange i
  obtain ⟨front, back, hsplit⟩ := List.append_of_mem hmem
  have hnodup := List.nodup_finRange numBuckets
  rw [hsplit] at hnodup ⊢
  obtain ⟨-, hback, hdisjoint⟩ := List.nodup_append.1 hnodup
  have hnone : ∀ is : List (Fin numBuckets), i ∉ is →
      (is.flatMap fun j => if j = i then (t.buckets.get j).contacts else []) = [] := by
    intro is his
    rw [List.flatMap_eq_nil_iff]
    intro j hj
    rw [if_neg]
    rintro rfl
    exact his hj
  rw [List.flatMap_append, List.flatMap_cons, hnone front, hnone back, if_pos rfl, List.nil_append, List.append_nil]
  · exact (List.nodup_cons.1 hback).1
  · intro hi
    exact hdisjoint i hi i List.mem_cons_self rfl

/-- The contacts of a table, or as many of them as one likes, fit into an empty one. -/
theorem WellFormed.fits_prefix (h : t.WellFormed) (husable : t.Usable) {cs : List Contact}
    (hcs : cs.Sublist t.allContacts) : Fits { localId := t.localId } cs where
  fresh c _ := by
    unfold bucket
    rw [get_new]
    exact List.not_mem_nil
  nodup := h.nodup_allContacts.sublist (hcs.map _)
  usable c hc := by
    obtain ⟨i, hi⟩ := t.mem_allContacts.1 (hcs.subset hc)
    exact ⟨(h.place hi).2, husable i c hi⟩
  room i := by
    have hsize := (h i).size
    unfold KBucket.ids at hsize
    rw [List.length_map, ← h.filter_allContacts i, ← List.countP_eq_length_filter] at hsize
    have hle := hcs.countP_le (p := fun c => decide (t.bucketIndex c.id = i))
    have hempty : (({} : KBucket).contacts).length = 0 := rfl
    rw [get_new, hempty]
    show 0 + cs.countP (fun c => decide (t.bucketIndex c.id = i)) ≤ bucketSize
    omega

/-! ## The checks of `update` -/

theorem Usable.setBucket (h : t.Usable) {id : NodeId} {b : KBucket} (hb : ∀ c ∈ b.contacts, c.unusable = false) :
    (t.setBucket id b).Usable := by
  intro i c hc
  rw [get_setBucket] at hc
  split at hc
  · exact hb c hc
  · exact h i c hc

theorem Usable.update (h : t.Usable) (c : Contact) : (t.update c).1.Usable := by
  have hbucket : ∀ c' ∈ (t.bucket c.id).contacts, c'.unusable = false := h _
  unfold RoutingTable.update
  split
  · exact h
  · split
    · exact h
    · rename_i husable
      refine h.setBucket ?_
      rcases (t.bucket c.id).update_cases c with ⟨-, -, hperm⟩ | ⟨-, -, hres⟩ | ⟨-, -, oldest, rest, -, hres⟩
      · intro c' hc'
        exact hbucket c' (hperm.mem_iff.1 hc')
      · rw [hres]
        rintro c' hc'
        rcases List.mem_append.1 hc' with hc' | hc'
        · exact hbucket c' hc'
        · rw [List.mem_singleton.1 hc']
          simpa using husable
      · rw [hres]
        exact hbucket

theorem Usable.forceUpdate (h : t.Usable) (c : Contact) : (t.forceUpdate c).1.Usable := by
  have hbucket : ∀ c' ∈ (t.bucket c.id).contacts, c'.unusable = false := h _
  unfold RoutingTable.forceUpdate
  split
  · exact h
  · split
    · exact h
    · rename_i husable
      have hc : c.unusable = false := by simpa using husable
      refine h.setBucket ?_
      rcases (t.bucket c.id).forceUpdate_cases c with
        ⟨existing, -, -, -, rest, hperm, hres⟩ | ⟨-, -, hres⟩ | ⟨-, -, oldest, rest, -, hres⟩
      · rw [hres]
        rintro c' hc'
        rcases List.mem_append.1 hc' with hc' | hc'
        · exact hbucket c' (hperm.mem_iff.2 (List.mem_cons_of_mem _ hc'))
        · rw [List.mem_singleton.1 hc']
          exact hc
      · rw [hres]
        rintro c' hc'
        rcases List.mem_append.1 hc' with hc' | hc'
        · exact hbucket c' hc'
        · rw [List.mem_singleton.1 hc']
          exact hc
      · rw [hres]
        exact hbucket

theorem Usable.remove (h : t.Usable) (id : NodeId) : (t.remove id).1.Usable :=
  h.setBucket fun c hc => h _ c (List.mem_of_mem_eraseP hc)

theorem Usable.replaceOldest (h : t.Usable) {c : Contact} (hc : c.unusable = false) : (t.replaceOldest c).Usable := by
  refine h.setBucket ?_
  rintro c' hc'
  rcases List.mem_append.1 hc' with hc' | hc'
  · exact h _ c' (List.mem_of_mem_tail hc')
  · rw [List.mem_singleton.1 hc']
    exact hc

theorem usable_new (localId : NodeId) : Usable { localId } := by
  intro i c hc
  rw [get_new] at hc
  cases hc

theorem foldl_update_usable : ∀ (cs : List Contact) {t : RoutingTable}, t.Usable →
    (cs.foldl (fun t c => (t.update c).1) t).Usable
  | [], _, h => h
  | c :: cs, _, h => foldl_update_usable cs (h.update c)

theorem foldl_update_wellFormed : ∀ (cs : List Contact) {t : RoutingTable}, t.WellFormed →
    (cs.foldl (fun t c => (t.update c).1) t).WellFormed
  | [], _, h => h
  | c :: cs, _, h => foldl_update_wellFormed cs (h.update c)

/-- What a running node's table always is. -/
structure Called.Alive (s : Called) : Prop where
  ok : s.Ok
  usable : s.table.Usable
  refused : ∀ c, s.refused = some c → c.unusable = false

theorem Called.Alive.step {s : Called} (h : s.Alive) (call : TableCall) (hcall : s.Directly call) :
    (s.step call).Alive := by
  refine ⟨h.ok.step call hcall, ?_, ?_⟩
  · cases call with
    | update c => exact h.usable.update c
    | forceUpdate c => exact h.usable.forceUpdate c
    | remove id => exact h.usable.remove id
    | replaceOldest c => exact h.usable.replaceOldest (h.refused c hcall)
  · intro c' hc'
    cases call with
    | update c =>
      cases hres : (s.table.update c).2 with
      | full oldest =>
        simp only [Called.step, hres, Option.some.injEq] at hc'
        exact hc' ▸ (update_full hres).2.2.1
      | inserted => simp [Called.step, hres] at hc'
      | updated => simp [Called.step, hres] at hc'
      | selfIgnored => simp [Called.step, hres] at hc'
    | forceUpdate c => cases hc'
    | remove id => cases hc'
    | replaceOldest c => cases hc'

theorem Called.alive_initNode (nodeId : NodeId) (cs : List Contact) : Called.Alive { table := initNode nodeId cs } where
  ok := ⟨foldl_update_wellFormed cs (wellFormed_new nodeId), fun c hc => by cases hc⟩
  usable := foldl_update_usable cs (usable_new nodeId)
  refused c hc := by cases hc

/-! ## A table through its file -/

/-- The table that a node is started with from the file that `saved` was written to. -/
structure Restored (saved t : RoutingTable) : Prop where
  sound : t.Sound
  id : t.localId = saved.localId
  contacts : t.allContacts = saved.allContacts.takeWhile Contact.isV4
  whole : (∀ c ∈ saved.allContacts, c.isV4 = true) → t = saved

/-- The contacts in front of the first with an IPv6 address, each in its bucket and at its place. -/
theorem WellFormed.restored (h : t.WellFormed) (husable : t.Usable) :
    Restored t (initNode t.localId (t.allContacts.takeWhile Contact.isV4)) := by
  have hsub : (t.allContacts.takeWhile Contact.isV4).Sublist t.allContacts := List.takeWhile_sublist _
  have hlocal : (initNode t.localId (t.allContacts.takeWhile Contact.isV4)).localId = t.localId :=
    foldl_update_localId _ _
  have hbuckets : ∀ i, ((initNode t.localId (t.allContacts.takeWhile Contact.isV4)).buckets.get i).contacts =
      (t.allContacts.takeWhile Contact.isV4).filter fun c => t.bucketIndex c.id = i := by
    intro i
    unfold initNode
    rw [foldl_update (h.fits_prefix husable hsub), get_new]
    rfl
  refine ⟨(foldl_update_wellFormed _ (wellFormed_new t.localId)).sound, hlocal, ?_, ?_⟩
  · rw [allContacts_eq (initNode _ _)]
    simp only [hbuckets]
    exact flatMap_finRange_filter (f := fun c : Contact => t.bucketIndex c.id) (h.sorted_allContacts.sublist hsub)
  · intro hall
    have hwhole : t.allContacts.takeWhile Contact.isV4 = t.allContacts := List.takeWhile_eq_self_iff.2 hall
    have hvector : (initNode t.localId (t.allContacts.takeWhile Contact.isV4)).buckets = t.buckets := by
      refine Vector.ext ?_
      intro i hi
      have hi' := hbuckets ⟨i, hi⟩
      rw [hwhole, h.filter_allContacts] at hi'
      rw [hwhole]
      exact congrArg KBucket.mk hi'
    calc initNode t.localId (t.allContacts.takeWhile Contact.isV4)
        = ⟨(initNode t.localId (t.allContacts.takeWhile Contact.isV4)).localId,
            (initNode t.localId (t.allContacts.takeWhile Contact.isV4)).buckets⟩ := rfl
      _ = t := by rw [hlocal, hvector]

/-- A start from the file of `save_state`. -/
theorem startWithConfig_saveState (t : RoutingTable) (random : NodeId) :
    startWithConfig (some t.saveState) random =
      .ok (initNode t.localId (t.allContacts.takeWhile Contact.isV4)) := by
  have hsaved : ((t.allContacts.map Contact.saved).takeWhile fun c => Kad.isV4 c.addr) =
      (t.allContacts.takeWhile Contact.isV4).map Contact.saved := by
    rw [List.takeWhile_map]
    refine congrArg _ (congrArg (List.takeWhile · t.allContacts) (funext fun c => ?_))
    exact c.isV4_saved
  have hback : ((t.allContacts.takeWhile Contact.isV4).map Contact.saved).map StateContact.contact =
      t.allContacts.takeWhile Contact.isV4 := by
    rw [List.map_map]
    exact (List.map_congr_left fun c _ => c.contact_saved).trans (List.map_id _)
  unfold startWithConfig loadOrCreateIdentity saveState
  simp only [Option.map_some, loadState_saved, hsaved, Outcome.map, hback]

end RoutingTable

/-! ## The life of a node -/

/-- A node with its state file, and its table while it runs. -/
structure NodeLife where
  file : Option String := none
  node : Option RoutingTable.Called := none

inductive LifeEvent where
  | call (call : RoutingTable.TableCall)
  | save
  | start (random : NodeId)
deriving DecidableEq

namespace NodeLife

/-- A start ends what ran before, saved or not. -/
def step (s : NodeLife) : LifeEvent → NodeLife
  | .call call => { s with node := s.node.map fun called => called.step call }
  | .save =>
    match s.node with
    | some called => { s with file := some called.table.saveState }
    | none => s
  | .start random =>
    match startWithConfig s.file random with
    | .ok table => { s with node := some { table } }
    | _ => { s with node := none }

/-- `replace_oldest` comes directly after the `update` that refused its contact. -/
def Directly (s : NodeLife) : LifeEvent → Prop
  | .call call => ∀ called ∈ s.node, called.Directly call
  | _ => True

instance (s : NodeLife) : ∀ e : LifeEvent, Decidable (s.Directly e)
  | .call call => inferInstanceAs (Decidable (∀ called ∈ s.node, called.Directly call))
  | .save | .start _ => isTrue trivial

theorem step_save {s : NodeLife} {called : RoutingTable.Called} (h : s.node = some called) :
    s.step .save = { s with file := some called.table.saveState } := by
  show (match s.node with
    | some called => { s with file := some called.table.saveState }
    | none => s) = _
  rw [h]

theorem step_start {s : NodeLife} {random : NodeId} {table : RoutingTable}
    (h : startWithConfig s.file random = .ok table) : s.step (.start random) = { s with node := some { table } } := by
  show (match startWithConfig s.file random with
    | .ok table => { s with node := some { table } }
    | _ => { s with node := none }) = _
  rw [h]

/-- The running node is sound, and the file is one that it wrote. -/
structure Lives (s : NodeLife) : Prop where
  node : ∀ called ∈ s.node, called.Alive
  file : ∀ content ∈ s.file, ∃ t : RoutingTable, t.WellFormed ∧ t.Usable ∧ content = t.saveState

theorem Lives.step {s : NodeLife} (h : s.Lives) (e : LifeEvent) (he : s.Directly e) : (s.step e).Lives := by
  cases e with
  | call call =>
    refine ⟨?_, h.file⟩
    intro called hcalled
    obtain ⟨before, hbefore, rfl⟩ := Option.map_eq_some_iff.1 hcalled
    exact (h.node before hbefore).step call (he before hbefore)
  | save =>
    cases hnode : s.node with
    | none =>
      have hsame : s.step .save = s := by
        simp only [NodeLife.step, hnode]
      rw [hsame]
      exact h
    | some called =>
      have halive := h.node called hnode
      rw [step_save hnode]
      refine ⟨h.node, ?_⟩
      intro content hcontent
      exact ⟨called.table, halive.ok.table, halive.usable, (Option.some.inj hcontent).symm⟩
  | start random =>
    have hnode : ∃ nodeId cs, startWithConfig s.file random = .ok (initNode nodeId cs) := by
      cases hfile : s.file with
      | none => exact ⟨random, [], rfl⟩
      | some content =>
        obtain ⟨t, -, -, rfl⟩ := h.file content hfile
        exact ⟨_, _, t.startWithConfig_saveState random⟩
    obtain ⟨nodeId, cs, hstart⟩ := hnode
    rw [step_start hstart]
    refine ⟨?_, h.file⟩
    intro called hcalled
    rw [← Option.some.inj hcalled]
    exact RoutingTable.Called.alive_initNode nodeId cs

/-- Only saving changes the file. -/
theorem run_file : ∀ {events : List LifeEvent}, LifeEvent.save ∉ events → ∀ s : NodeLife,
    (run step s events).file = s.file
  | [], _, _ => rfl
  | e :: events, h, s => by
    have he : LifeEvent.save ≠ e := fun heq => h (heq ▸ List.mem_cons_self)
    have hevents : LifeEvent.save ∉ events := fun hmem => h (List.mem_cons_of_mem _ hmem)
    rw [run_cons, run_file hevents]
    cases e with
    | call call => rfl
    | save => exact absurd rfl he
    | start random =>
      unfold step
      dsimp only
      split
      · rfl
      · rfl

end NodeLife

end NodeX.Kad
