/-
Both lookups come to an end, however the peers behave: a hop calls somebody who was not called before, and there are
only so many ids. Nobody is called twice, the own id is not called, and what is returned are contacts of which none
failed, in the order of their distance.
-/
import NodeX.Kad.Lookup

namespace NodeX.Kad

open NodeX.Lib

/-! ## The two lookups -/

/-- `lookup_nodes` and `lookup_value`. -/
inductive LookupKind where
  | nodes
  | value
deriving DecidableEq

/-- The value in a FIND_VALUE reply, and the contact it came from. -/
def valueFrom? (r : CallResult) : Option (Bytes × Contact) :=
  match r.2 with
  | .ok reply =>
    match reply.payload with
    | .findValueResp (some value) _ => some (value, r.1)
    | _ => none
  | .error _ => none

namespace Lookup

variable (q : Lookup)

/-- The contacts of a FIND_VALUE reply without a value, but the node itself. -/
def valueContacts (r : CallResult) : List Contact :=
  match r.2 with
  | .ok reply =>
    match reply.payload with
    | .findValueResp none contacts => contacts.filter fun c => c.id ≠ q.localId
    | _ => []
  | .error _ => []

def contactsOf : LookupKind → CallResult → List Contact
  | .nodes => q.resultContacts
  | .value => q.valueContacts

end Lookup

/-- `lookup_value` returns at the first reply with a value. -/
def found? : LookupKind → List CallResult → Option (Bytes × Contact)
  | .nodes, _ => none
  | .value, results => results.findSome? valueFrom?

/-- A lookup between two hops, with the contacts it called. -/
structure LookupRun where
  state : LookupState
  found : Option (Bytes × Contact) := none
  calls : List Contact := []
deriving DecidableEq

namespace LookupRun

/-- The loop is left. -/
def ended (r : LookupRun) : Bool := r.found.isSome || r.state.returned

/-- One hop, with the results of its calls as they come in. -/
def step (q : Lookup) (kind : LookupKind) (r : LookupRun) (results : List CallResult) : LookupRun :=
  if r.ended then r
  else
    let r := { r with calls := r.calls ++ (pick alpha r.state.shortlist).2 }
    match found? kind results with
    | some found => { r with found := some found }
    | none => { r with state := q.hopWith (q.contactsOf kind) r.state results }

/-- The results are those of the calls of this hop, in any order. -/
def Complete (r : LookupRun) (results : List CallResult) : Prop := r.ended ∨
  (results.map Prod.fst).Perm (pick alpha r.state.shortlist).2

instance (r : LookupRun) (results : List CallResult) : Decidable (r.Complete results) :=
  inferInstanceAs (Decidable (_ ∨ _))

def start (q : Lookup) (t : RoutingTable) : LookupRun := { state := q.start t }

/-- `lookup_nodes` is the lookup of `Lookup`. -/
theorem state_run_nodes (q : Lookup) (r : LookupRun) (hfound : r.found = none) (hops : List (List CallResult)) :
    (run (step q .nodes) r hops).state = run (LookupState.step q) r.state hops := by
  induction hops generalizing r with
  | nil => rfl
  | cons results hops ih =>
    have hended : r.ended = r.state.returned := by
      unfold ended
      rw [hfound]
      rfl
    rw [run_cons, run_cons]
    cases hret : r.state.returned with
    | true =>
      have hstep : step q .nodes r results = r := by
        unfold step
        rw [hended, hret, if_pos rfl]
      have hstep' : LookupState.step q r.state results = r.state := by
        unfold LookupState.step
        rw [hret, if_pos rfl]
      rw [hstep, hstep', ih r hfound]
    | false =>
      have hstep' : LookupState.step q r.state results = q.hop r.state results := by
        unfold LookupState.step
        rw [hret, if_neg (by decide)]
      have hstep : step q .nodes r results =
          { r with calls := r.calls ++ (pick alpha r.state.shortlist).2, state := q.hop r.state results } := by
        unfold step
        rw [hended, hret, if_neg (by decide)]
        rfl
      rw [hstep, hstep', ih _ (by exact hfound)]

end LookupRun

/-! ## Who is called -/

section Pick

variable {n : Nat} {shortlist : List Candidate} {c : Contact} {k : Candidate}

/-- Whoever is picked was unqueried, and is in flight then. -/
theorem mem_picked : ∀ {n : Nat} {shortlist : List Candidate}, c ∈ (pick n shortlist).2 →
    (∃ k ∈ shortlist, k.contact = c ∧ k.state = .unqueried) ∧
      ∃ k ∈ (pick n shortlist).1, k.contact = c ∧ k.state = .inFlight
  | 0, shortlist, h => by
    rw [pick_zero] at h
    exact absurd h List.not_mem_nil
  | n + 1, [], h => absurd h List.not_mem_nil
  | n + 1, k :: shortlist, h => by
    unfold pick at h ⊢
    split at h
    · rename_i hk
      rw [if_pos hk]
      rcases List.mem_cons.1 h with rfl | h
      · exact ⟨⟨k, List.mem_cons_self, rfl, hk⟩, _, List.mem_cons_self, rfl, rfl⟩
      · obtain ⟨⟨m, hm, hmc⟩, m', hm', hmc'⟩ := mem_picked h
        exact ⟨⟨m, List.mem_cons_of_mem _ hm, hmc⟩, m', List.mem_cons_of_mem _ hm', hmc'⟩
    · rename_i hk
      rw [if_neg hk]
      obtain ⟨⟨m, hm, hmc⟩, m', hm', hmc'⟩ := mem_picked h
      exact ⟨⟨m, List.mem_cons_of_mem _ hm, hmc⟩, m', List.mem_cons_of_mem _ hm', hmc'⟩

theorem picked_sublist : ∀ (n : Nat) (shortlist : List Candidate),
    (pick n shortlist).2.Sublist (shortlist.map Candidate.contact)
  | 0, shortlist => by
    rw [pick_zero]
    exact List.nil_sublist _
  | _ + 1, [] => List.nil_sublist _
  | n + 1, k :: shortlist => by
    unfold pick
    split
    · exact (picked_sublist n shortlist).cons_cons _
    · exact (picked_sublist (n + 1) shortlist).cons _

theorem mem_pick_of_mem : ∀ {n : Nat} {shortlist : List Candidate}, k ∈ shortlist → k.state ≠ .unqueried →
    k ∈ (pick n shortlist).1
  | 0, shortlist, h, _ => by rwa [pick_zero]
  | n + 1, [], h, _ => absurd h List.not_mem_nil
  | n + 1, m :: shortlist, h, hstate => by
    unfold pick
    split
    · rename_i hm
      rcases List.mem_cons.1 h with rfl | h
      · exact absurd hm hstate
      · exact List.mem_cons_of_mem _ (mem_pick_of_mem h hstate)
    · rcases List.mem_cons.1 h with rfl | h
      · exact List.mem_cons_self
      · exact List.mem_cons_of_mem _ (mem_pick_of_mem h hstate)

/-- A candidate with this id was called. -/
def Called (shortlist : List Candidate) (id : NodeId) : Prop :=
  ∃ k ∈ shortlist, k.contact.id = id ∧ k.state ≠ .unqueried

theorem Called.mark {id id' : NodeId} {state : CandidateState} (h : Called shortlist id) (hstate : state ≠ .unqueried) :
    Called (mark id' state shortlist) id := by
  obtain ⟨k, hk, hid, hcalled⟩ := h
  unfold NodeX.Kad.mark
  induction shortlist with
  | nil => exact absurd hk List.not_mem_nil
  | cons m shortlist ih =>
    unfold modifyKey
    split
    · rcases List.mem_cons.1 hk with rfl | hk
      · exact ⟨_, List.mem_cons_self, hid, hstate⟩
      · exact ⟨k, List.mem_cons_of_mem _ hk, hid, hcalled⟩
    · rcases List.mem_cons.1 hk with rfl | hk
      · exact ⟨k, List.mem_cons_self, hid, hcalled⟩
      · obtain ⟨k', hk', hrest⟩ := ih hk
        exact ⟨k', List.mem_cons_of_mem _ hk', hrest⟩

theorem Called.foldl_handleResult {id : NodeId} : ∀ {rs : List CallResult} {shortlist : List Candidate},
    Called shortlist id → Called (rs.foldl Lookup.handleResult shortlist) id
  | [], _, h => h
  | r :: rs, shortlist, h => by
    rw [List.foldl_cons]
    refine Called.foldl_handleResult ?_
    unfold Lookup.handleResult
    split
    · exact h.mark CandidateState.noConfusion
    · exact h.mark CandidateState.noConfusion

theorem subset_foldl_addContact {q : Lookup} : ∀ {contacts : List Contact} {shortlist : List Candidate},
    k ∈ shortlist → k ∈ contacts.foldl q.addContact shortlist
  | [], _, h => h
  | c :: contacts, shortlist, h => by
    rw [List.foldl_cons]
    refine subset_foldl_addContact ?_
    unfold Lookup.addContact
    split
    · exact h
    · exact List.mem_append_left _ h

/-- The ids on the shortlist are old or of the contacts that were added. -/
theorem mem_ids_of_foldl_addContact {q : Lookup} {id : NodeId} : ∀ {contacts : List Contact}
    {shortlist : List Candidate}, id ∈ (contacts.foldl q.addContact shortlist).map (fun k => k.contact.id) →
      id ∈ shortlist.map (fun k => k.contact.id) ∨ id ∈ contacts.map Contact.id
  | [], _, h => .inl h
  | c :: contacts, shortlist, h => by
    rw [List.foldl_cons] at h
    rw [List.map_cons, List.mem_cons]
    rcases mem_ids_of_foldl_addContact h with h | h
    · unfold Lookup.addContact at h
      split at h
      · exact .inl h
      · rw [List.map_append, List.mem_append] at h
        exact h.imp_right fun h => .inl (List.mem_singleton.1 h)
    · exact .inr (.inr h)

end Pick

/-! ## Between two hops -/

theorem Lookup.contactsOf_ne (q : Lookup) (kind : LookupKind) (r : CallResult) : ∀ c ∈ q.contactsOf kind r,
    c.id ≠ q.localId := by
  intro c hc
  cases kind with
  | nodes =>
    simp only [Lookup.contactsOf, Lookup.resultContacts] at hc
    split at hc
    · unfold Lookup.newContacts at hc
      split at hc
      · have hother := (List.mem_filter.1 hc).2
        unfold Lookup.isOther at hother
        exact of_decide_eq_true (Bool.and_eq_true_iff.1 hother).1
      · cases hc
    · cases hc
  | value =>
    simp only [Lookup.contactsOf, Lookup.valueContacts] at hc
    split at hc
    · split at hc
      · exact of_decide_eq_true (List.mem_filter.1 hc).2
      · cases hc
    · cases hc

namespace LookupRun

variable {q : Lookup} {kind : LookupKind} {r : LookupRun} {results : List CallResult}

/-- The shortlist of a lookup that goes on. -/
structure Going (q : Lookup) (r : LookupRun) : Prop where
  sound : LookupState.Sound q r.state
  tidy : LookupState.Tidy r.state.shortlist
  others : ∀ id ∈ r.state.shortlist.map (fun k => k.contact.id), id ≠ q.localId
  called : ∀ c ∈ r.calls, Called r.state.shortlist c.id
  answered : (r.state.results.map Prod.fst).Perm r.calls

/-- Nobody is called twice, and the node does not call itself. -/
structure Once (q : Lookup) (r : LookupRun) : Prop where
  nodup : (r.calls.map Contact.id).Nodup
  others : ∀ c ∈ r.calls, c.id ≠ q.localId

theorem going_start {t : RoutingTable} (hids : (t.allContacts.map Contact.id).Nodup) : (start q t).Going q where
  sound := LookupState.sound_start q t
  tidy := by
    have hclosest : ((t.findClosest q.target bucketSize).map Contact.id).Nodup := by
      unfold RoutingTable.findClosest nearest
      exact (((perm_sortByKey _ t.allContacts).map Contact.id).nodup_iff.2 hids).sublist
        ((List.take_sublist _ _).map _)
    have hsteps : Steps (LookupState.step q) LookupState.Complete (q.start t) [] := trivial
    exact LookupState.tidy_run hclosest hsteps
  others id hid := by
    obtain ⟨k, hk, rfl⟩ := List.mem_map.1 hid
    obtain ⟨c, hc, rfl⟩ := List.mem_map.1 ((mem_sortByKey _).1 hk)
    have hother := (List.mem_filter.1 hc).2
    unfold Lookup.isOther at hother
    exact of_decide_eq_true (Bool.and_eq_true_iff.1 hother).1
  called c hc := absurd hc List.not_mem_nil
  answered := .nil

/-- Whoever is picked was not called before. -/
theorem Once.calls_pick (h : r.Once q) (hgoing : r.Going q) (n : Nat) :
    ((r.calls ++ (pick n r.state.shortlist).2).map Contact.id).Nodup ∧
      ∀ c ∈ r.calls ++ (pick n r.state.shortlist).2, c.id ≠ q.localId := by
  constructor
  · rw [List.map_append, List.nodup_append]
    refine ⟨h.nodup, ?_, ?_⟩
    · have hsub := (picked_sublist n r.state.shortlist).map Contact.id
      rw [List.map_map] at hsub
      exact hgoing.tidy.nodup.sublist hsub
    · rintro id hid id' hid' rfl
      obtain ⟨c, hc, hcid⟩ := List.mem_map.1 hid
      obtain ⟨k, hk, hkid, hcalled⟩ := hgoing.called c hc
      obtain ⟨c', hc', hcid'⟩ := List.mem_map.1 hid'
      obtain ⟨⟨k', hk', hkc', hunqueried⟩, -⟩ := mem_picked hc'
      have hsame : k.contact.id = k'.contact.id := by rw [hkid, hcid, hkc', hcid']
      have heq := List.inj_on_of_nodup_map hgoing.tidy.nodup hk hk' hsame
      exact hcalled (heq ▸ hunqueried)
  · intro c hc
    rcases List.mem_append.1 hc with hc | hc
    · exact h.others c hc
    · obtain ⟨⟨k, hk, rfl, -⟩, -⟩ := mem_picked hc
      exact hgoing.others _ (List.mem_map_of_mem hk)

theorem Going.hopWith (h : r.Going q) (hcomplete : (results.map Prod.fst).Perm (pick alpha r.state.shortlist).2) :
    Going q { r with calls := r.calls ++ (pick alpha r.state.shortlist).2
                     state := q.hopWith (q.contactsOf kind) r.state results } where
  sound := h.sound.hopWith _ results
  tidy := h.tidy.hopWith _ hcomplete
  others id hid := by
    have hperm := (perm_sortByKey Candidate.distance ((results.flatMap (q.contactsOf kind)).foldl q.addContact
      (results.foldl Lookup.handleResult (pick alpha r.state.shortlist).1))).map fun k => k.contact.id
    rcases mem_ids_of_foldl_addContact (hperm.mem_iff.1 hid) with hid | hid
    · rw [ids_foldl_handleResult, ids_pick] at hid
      exact h.others id hid
    · obtain ⟨c, hc, rfl⟩ := List.mem_map.1 hid
      obtain ⟨res, -, hc⟩ := List.mem_flatMap.1 hc
      exact q.contactsOf_ne kind res c hc
  called c hc := by
    have hpicked : Called (pick alpha r.state.shortlist).1 c.id := by
      rcases List.mem_append.1 hc with hc | hc
      · obtain ⟨k, hk, hid, hcalled⟩ := h.called c hc
        exact ⟨k, mem_pick_of_mem hk hcalled, hid, hcalled⟩
      · obtain ⟨-, k, hk, rfl, hstate⟩ := mem_picked hc
        exact ⟨k, hk, rfl, fun hun => by rw [hun] at hstate; cases hstate⟩
    have hhandled : Called (results.foldl Lookup.handleResult (pick alpha r.state.shortlist).1) c.id :=
      hpicked.foldl_handleResult
    obtain ⟨k, hk, hrest⟩ := hhandled
    exact ⟨k, (mem_sortByKey _).2 (subset_foldl_addContact hk), hrest⟩
  answered := by
    show ((r.state.results ++ results).map Prod.fst).Perm _
    rw [List.map_append]
    exact h.answered.append hcomplete

/-- After any hops: nobody was called twice, and the shortlist is in order unless a value was found. -/
theorem run_once_going {t : RoutingTable} (hids : (t.allContacts.map Contact.id).Nodup)
    {hops : List (List CallResult)} (h : Steps (step q kind) Complete (start q t) hops) :
    (run (step q kind) (start q t) hops).Once q ∧
      ((run (step q kind) (start q t) hops).found = none → (run (step q kind) (start q t) hops).Going q) := by
  refine run_invariant (I := fun r : LookupRun => r.Once q ∧ (r.found = none → r.Going q)) ?_ ?_ h
  · rintro r results ⟨honce, hgoing⟩ hcomplete
    unfold step
    split
    · exact ⟨honce, hgoing⟩
    · rename_i hended
      have hfound : r.found = none := by
        unfold ended at hended
        simp only [Bool.or_eq_true, not_or, Bool.not_eq_true, Option.isSome_eq_false_iff, Option.isNone_iff_eq_none]
          at hended
        exact hended.1
      have hcalls := honce.calls_pick (hgoing hfound) alpha
      dsimp only
      split
      · exact ⟨⟨hcalls.1, hcalls.2⟩, fun hnone => by cases hnone⟩
      · exact ⟨⟨hcalls.1, hcalls.2⟩, fun _ => (hgoing hfound).hopWith (hcomplete.resolve_left hended)⟩
  · exact ⟨⟨List.nodup_nil, fun c hc => absurd hc List.not_mem_nil⟩, fun _ => going_start hids⟩

/-! ## The end -/

/-- A hop of a lookup that has not ended calls somebody. -/
theorem length_le_calls (q : Lookup) (kind : LookupKind) (t : RoutingTable) (hops : List (List CallResult)) :
    (run (step q kind) (start q t) hops).ended = true ∨
      hops.length ≤ (run (step q kind) (start q t) hops).calls.length := by
  have hsteps : Steps (step q kind) (fun _ _ => True) (start q t) hops := steps_of_forall (fun _ _ => trivial) _ _
  refine run_history (I := fun as r => r.ended = true ∨ as.length ≤ r.calls.length) (.inr (Nat.zero_le _)) ?_ hops
    hsteps
  intro as results hI _
  generalize run (step q kind) (start q t) as = r at hI ⊢
  unfold step
  split
  · rename_i hended
    exact .inl hended
  · rename_i hended
    right
    have hpick : (pick alpha r.state.shortlist).2 ≠ [] := by
      intro hnil
      refine hended ?_
      unfold ended LookupState.returned
      rw [hnil, List.isEmpty_nil, Bool.or_true, Bool.or_true]
    have hpos := List.length_pos_iff.2 hpick
    have hlen := hI.resolve_left hended
    dsimp only
    rw [List.length_append, List.length_singleton]
    split
    · simp only [List.length_append]
      omega
    · simp only [List.length_append]
      omega

/-- There are only so many ids. -/
theorem length_le_ids {ids : List NodeId} (h : ids.Nodup) : ids.length ≤ 256 ^ idSize := by
  have hnodup : (ids.map fun id => beNat id.bytes).Nodup := by
    refine h.map fun a b hab => NodeId.eq_of_bytes ?_
    exact beNat_inj (a.size.trans b.size.symm) hab
  have hsub : (ids.map fun id => beNat id.bytes) ⊆ List.range (256 ^ idSize) := by
    intro n hn
    obtain ⟨id, -, rfl⟩ := List.mem_map.1 hn
    have hlt := beNat_lt id.bytes
    rw [id.size] at hlt
    exact List.mem_range.2 hlt
  have hlen := (List.subperm_of_subset hnodup hsub).length_le
  rwa [List.length_map, List.length_range] at hlen

/-- What a lookup that found no value returns. -/
theorem Going.result (h : r.Going q) (honce : r.Once q) :
    (r.state.result.map Contact.id).Nodup ∧
      r.state.result.Pairwise (fun a b => a.id.distance q.target < b.id.distance q.target) ∧
      ∀ c ∈ r.state.result, ¬FailedToAnswer r.state.results c.id := by
  have hsub : ((r.state.shortlist.filter LookupState.notFailed).take bucketSize).Sublist r.state.shortlist :=
    (List.take_sublist _ _).trans List.filter_sublist
  have hnodup : (((r.state.shortlist.filter LookupState.notFailed).take bucketSize).map fun k => k.contact.id).Nodup :=
    h.tidy.nodup.sublist (hsub.map _)
  refine ⟨?_, ?_, ?_⟩
  · unfold LookupState.result
    rw [List.map_map]
    exact hnodup
  · unfold LookupState.result
    rw [List.pairwise_map]
    have hpair := (h.sound.sorted.sublist hsub).and (List.pairwise_map.1 hnodup)
    refine hpair.imp_of_mem ?_
    rintro a b ha hb ⟨hle, hne⟩
    rw [h.sound.marked.distance a (hsub.subset ha), h.sound.marked.distance b (hsub.subset hb)] at hle
    exact lt_of_le_of_ne hle fun heq => hne (NodeId.distance_inj heq)
  · intro c hc hfailed
    obtain ⟨k, hk, rfl⟩ := List.mem_map.1 hc
    have hmem := List.mem_of_mem_take hk
    have hk' := (List.mem_filter.1 hmem).1
    have hnot := of_decide_eq_true (List.mem_filter.1 hmem).2
    obtain ⟨res, hres, hid, hfail⟩ := hfailed
    -- whoever failed was called, so the candidate is marked; it is not marked as queried, as nobody answers twice
    obtain ⟨m, hm, hmid, hcalled⟩ := h.called res.1 (h.answered.mem_iff.1 (List.mem_map_of_mem hres))
    obtain rfl := List.inj_on_of_nodup_map h.tidy.nodup hm hk' (hmid.trans hid)
    cases hstate : m.state with
    | unqueried => exact hcalled hstate
    | inFlight => exact h.tidy.landed m hm hstate
    | failed => exact hnot hstate
    | queried =>
      obtain ⟨res', hres', hid', hok⟩ := h.sound.marked.queried m hm hstate
      have hresults : (r.state.results.map fun res => res.1.id).Nodup := by
        have hperm := (h.answered.map Contact.id).nodup_iff.2 honce.nodup
        rwa [List.map_map] at hperm
      obtain rfl := List.inj_on_of_nodup_map hresults hres hres' (hid.trans hid'.symm)
      exact hfail hok

/-- However the peers behave, both lookups end, call nobody twice and never themselves, and return no more than the
closest contacts, each once and in order, of which none failed. -/
theorem run_ends (q : Lookup) (kind : LookupKind) (t : RoutingTable) (hids : (t.allContacts.map Contact.id).Nodup)
    (hops : List (List CallResult)) (hcomplete : Steps (step q kind) Complete (start q t) hops) :
    (256 ^ idSize < hops.length → (run (step q kind) (start q t) hops).ended = true) ∧
      ((run (step q kind) (start q t) hops).calls.map Contact.id).Nodup ∧
      (∀ c ∈ (run (step q kind) (start q t) hops).calls, c.id ≠ q.localId) ∧
      ((run (step q kind) (start q t) hops).found = none →
        (run (step q kind) (start q t) hops).state.result.length ≤ bucketSize ∧
          ((run (step q kind) (start q t) hops).state.result.map Contact.id).Nodup ∧
          (run (step q kind) (start q t) hops).state.result.Pairwise
            (fun a b => a.id.distance q.target < b.id.distance q.target) ∧
          ∀ c ∈ (run (step q kind) (start q t) hops).state.result,
            ¬FailedToAnswer (run (step q kind) (start q t) hops).state.results c.id) := by
  obtain ⟨honce, hgoing⟩ := run_once_going hids hcomplete
  have hcalls := length_le_calls q kind t hops
  generalize run (step q kind) (start q t) hops = r at honce hgoing hcalls ⊢
  refine ⟨fun hlong => ?_, honce.nodup, honce.others, fun hfound => ⟨?_, (hgoing hfound).result honce⟩⟩
  · have hids := length_le_ids honce.nodup
    rw [List.length_map] at hids
    exact hcalls.resolve_right fun hlen => absurd (hlen.trans hids) (Nat.not_le.2 hlong)
  · unfold LookupState.result
    rw [List.length_map]
    exact List.length_take_le _ _

open LookupState.Sample in
theorem run_ends_two : (run (step search .value) (start search (known 2))
    (hops 1 (search.start (known 2)))).state.result.length ≤ bucketSize :=
  ((run_ends search .value (known 2) (by decide +kernel) (hops 1 (search.start (known 2))) (by decide +kernel)).2.2.2
    (by decide +kernel)).1

end LookupRun

end NodeX.Kad
