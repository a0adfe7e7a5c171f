/-
`lookup_nodes` and `lookup_value` round by round, against peers that name the same contacts to both and have no value.
`lookup_nodes` takes no contact with the node's own address; `lookup_value` only leaves out the own id. So the two go
on alike exactly as long as every contact with the own address comes with an id that is on the shortlist already.
-/
import NodeX.Kad.LookupEnds

namespace NodeX.Kad

open NodeX.Lib

/-! ## Peers that answer both alike -/

/-- The contacts in a FIND_NODE reply, or in a FIND_VALUE reply without a value. -/
def named (kind : LookupKind) (r : CallResult) : List Contact :=
  match r.2 with
  | .error _ => []
  | .ok reply =>
    match kind, reply.payload with
    | .nodes, .findNodeResp contacts => contacts
    | .value, .findValueResp none contacts => contacts
    | _, _ => []

/-- What a call for FIND_NODE and one for FIND_VALUE return. -/
structure SameAnswer (r r' : CallResult) : Prop where
  contact : r.1 = r'.1
  answered : r.2.isOk = r'.2.isOk
  named : named .nodes r = named .value r'
  noValue : valueFrom? r' = none

/-- The results of the calls of a round, as they come in. -/
abbrev Peers := LookupKind → ℕ → List Contact → List CallResult

/-- The results are those of the calls, and both kinds of call have the same. -/
structure Peers.Alike (peers : Peers) : Prop where
  complete : ∀ kind n calls, ((peers kind n calls).map Prod.fst).Perm calls
  same : ∀ n calls, List.Forall₂ SameAnswer (peers .nodes n calls) (peers .value n calls)

section SameAnswer

variable {results results' : List CallResult}

theorem SameAnswer.handleResult {r r' : CallResult} (h : SameAnswer r r') (shortlist : List Candidate) :
    Lookup.handleResult shortlist r = Lookup.handleResult shortlist r' := by
  obtain ⟨c, res⟩ := r
  obtain ⟨c', res'⟩ := r'
  obtain rfl : c = c' := h.contact
  have hok : res.isOk = res'.isOk := h.answered
  cases res <;> cases res' <;> first | rfl | cases hok

theorem foldl_handleResult_eq (h : List.Forall₂ SameAnswer results results') (shortlist : List Candidate) :
    results.foldl Lookup.handleResult shortlist = results'.foldl Lookup.handleResult shortlist := by
  induction h generalizing shortlist with
  | nil => rfl
  | cons hr _ ih => rw [List.foldl_cons, List.foldl_cons, hr.handleResult, ih]

theorem flatMap_named_eq (h : List.Forall₂ SameAnswer results results') :
    results.flatMap (named .nodes) = results'.flatMap (named .value) := by
  induction h with
  | nil => rfl
  | cons hr _ ih => rw [List.flatMap_cons, List.flatMap_cons, hr.named, ih]

theorem found?_eq_none (h : List.Forall₂ SameAnswer results results') : found? .value results' = none := by
  unfold found?
  rw [List.findSome?_eq_none_iff]
  intro r' hr'
  induction h with
  | nil => cases hr'
  | cons hr _ ih =>
    rcases List.mem_cons.1 hr' with rfl | hr'
    · exact hr.noValue
    · exact ih hr'

theorem resultContacts_eq (q : Lookup) (r : CallResult) : q.resultContacts r = (named .nodes r).filter q.isOther := by
  unfold Lookup.resultContacts Lookup.newContacts named
  split
  · split <;> simp_all
  · simp_all

theorem valueContacts_eq (q : Lookup) (r : CallResult) :
    q.valueContacts r = (named .value r).filter fun c => c.id ≠ q.localId := by
  unfold Lookup.valueContacts named
  split
  · split <;> simp_all
  · simp_all

end SameAnswer

/-! ## Contacts with the own address -/

/-- Whoever is named with the own address has the own id, or an id that is on the shortlist by then. -/
def OwnKnown (q : Lookup) (shortlist : List Candidate) (contacts : List Contact) : Prop :=
  ∀ before c after, contacts = before ++ c :: after → c.addr = q.localAddr →
    c.id = q.localId ∨ c.id ∈ shortlist.map (fun k => k.contact.id) ∨
      ∃ o ∈ before, o.id = c.id ∧ o.addr ≠ q.localAddr

/-- Nobody on the shortlist has the own address. -/
def AllOther (q : Lookup) (shortlist : List Candidate) : Prop := ∀ k ∈ shortlist, k.contact.addr ≠ q.localAddr

section Added

variable {q : Lookup} {shortlist : List Candidate} {c : Contact} {contacts : List Contact}

theorem isOther_iff : q.isOther c = true ↔ c.id ≠ q.localId ∧ c.addr ≠ q.localAddr := by
  unfold Lookup.isOther
  rw [Bool.and_eq_true, decide_eq_true_iff, decide_eq_true_iff]

theorem addContact_of_mem (h : c.id ∈ shortlist.map fun k => k.contact.id) : q.addContact shortlist c = shortlist := by
  obtain ⟨k, hk, hid⟩ := List.mem_map.1 h
  exact if_pos (List.any_eq_true.2 ⟨k, hk, decide_eq_true hid⟩)

theorem mem_addContact_of_not_mem (h : c.id ∉ shortlist.map fun k => k.contact.id) :
    q.candidate c ∈ q.addContact shortlist c := by
  have hany : ¬(shortlist.any fun k => k.contact.id = c.id) = true := by
    intro hany
    obtain ⟨k, hk, hid⟩ := List.any_eq_true.1 hany
    exact h (List.mem_map.2 ⟨k, hk, of_decide_eq_true hid⟩)
  unfold Lookup.addContact
  rw [if_neg hany]
  exact List.mem_append_right _ List.mem_cons_self

theorem mem_ids_addContact {id : NodeId} : id ∈ (q.addContact shortlist c).map (fun k => k.contact.id) ↔
    id ∈ shortlist.map (fun k => k.contact.id) ∨ id = c.id := by
  by_cases hc : c.id ∈ shortlist.map fun k => k.contact.id
  · rw [addContact_of_mem hc]
    exact ⟨.inl, fun h => h.elim (fun h => h) fun h => h ▸ hc⟩
  · have hany : ¬(shortlist.any fun k => k.contact.id = c.id) = true := by
      intro hany
      obtain ⟨k, hk, hid⟩ := List.any_eq_true.1 hany
      exact hc (List.mem_map.2 ⟨k, hk, of_decide_eq_true hid⟩)
    unfold Lookup.addContact
    rw [if_neg hany, List.map_append, List.mem_append]
    exact or_congr_right List.mem_singleton

theorem AllOther.addContact (h : AllOther q shortlist) (hc : c.addr ≠ q.localAddr) :
    AllOther q (q.addContact shortlist c) := by
  unfold Lookup.addContact
  split
  · exact h
  · intro k hk
    rcases List.mem_append.1 hk with hk | hk
    · exact h k hk
    · rw [List.mem_singleton.1 hk]
      exact hc

theorem AllOther.pick (h : AllOther q shortlist) (n : ℕ) : AllOther q (pick n shortlist).1 := by
  intro k hk
  rcases mem_pick hk with hk | ⟨m, hm, rfl⟩
  · exact h k hk
  · exact h m hm

theorem AllOther.foldl_handleResult : ∀ {results : List CallResult} {shortlist : List Candidate},
    AllOther q shortlist → AllOther q (results.foldl Lookup.handleResult shortlist)
  | [], _, h => h
  | r :: results, shortlist, h => by
    rw [List.foldl_cons]
    refine AllOther.foldl_handleResult fun k hk => ?_
    have hmark : ∃ state, k ∈ mark r.1.id state shortlist := by
      unfold Lookup.handleResult at hk
      split at hk
      · exact ⟨_, hk⟩
      · exact ⟨_, hk⟩
    obtain ⟨state, hk⟩ := hmark
    rcases mem_mark hk with hk | ⟨m, hm, -, rfl⟩
    · exact h k hk
    · exact h m hm

theorem AllOther.foldl_addContact : ∀ {contacts : List Contact} {shortlist : List Candidate},
    AllOther q shortlist → AllOther q ((contacts.filter q.isOther).foldl q.addContact shortlist)
  | [], _, h => h
  | c :: contacts, shortlist, h => by
    rw [List.filter_cons]
    split
    · rename_i hc
      exact AllOther.foldl_addContact (h.addContact (isOther_iff.1 hc).2)
    · exact AllOther.foldl_addContact h

/-- One contact more: it is added where it has another address, and must be known where it has the own one. -/
theorem ownKnown_cons : OwnKnown q shortlist (c :: contacts) ↔
    (c.addr = q.localAddr → c.id = q.localId ∨ c.id ∈ shortlist.map fun k => k.contact.id) ∧
      OwnKnown q (if q.isOther c then q.addContact shortlist c else shortlist) contacts := by
  constructor
  · intro h
    refine ⟨fun hc => ?_, ?_⟩
    · rcases h [] c contacts rfl hc with hid | hid | ⟨o, ho, -⟩
      · exact .inl hid
      · exact .inr hid
      · cases ho
    · rintro before d after rfl hd
      rcases h (c :: before) d after rfl hd with hid | hid | ⟨o, ho, hsame, haddr⟩
      · exact .inl hid
      · right; left
        split
        · exact mem_ids_addContact.2 (.inl hid)
        · exact hid
      · rcases List.mem_cons.1 ho with rfl | ho
        · by_cases hown : o.id = q.localId
          · exact .inl (hsame ▸ hown)
          · right; left
            rw [if_pos (isOther_iff.2 ⟨hown, haddr⟩)]
            exact mem_ids_addContact.2 (.inr hsame.symm)
        · exact .inr (.inr ⟨o, ho, hsame, haddr⟩)
  · rintro ⟨hfirst, hrest⟩ before d after heq hd
    cases before with
    | nil =>
      obtain ⟨rfl, rfl⟩ := List.cons.inj heq
      exact (hfirst hd).imp_right .inl
    | cons b before =>
      obtain ⟨rfl, rfl⟩ := List.cons.inj heq
      rcases hrest before d after rfl hd with hid | hid | ⟨o, ho, hsame⟩
      · exact .inl hid
      · right
        split at hid
        · rename_i hc
          rcases mem_ids_addContact.1 hid with hid | hid
          · exact .inl hid
          · exact .inr ⟨c, List.mem_cons_self, hid.symm, (isOther_iff.1 hc).2⟩
        · exact .inl hid
      · exact .inr (.inr ⟨o, List.mem_cons_of_mem _ ho, hsame⟩)

/-- With such contacts, `lookup_value` adds those that `lookup_nodes` adds. -/
theorem OwnKnown.foldl_eq (h : OwnKnown q shortlist contacts) :
    (contacts.filter fun c => c.id ≠ q.localId).foldl q.addContact shortlist =
      (contacts.filter q.isOther).foldl q.addContact shortlist := by
  induction contacts generalizing shortlist with
  | nil => rfl
  | cons c contacts ih =>
    obtain ⟨hfirst, hrest⟩ := ownKnown_cons.1 h
    have htail := ih hrest
    by_cases hid : c.id = q.localId
    · have hother : ¬q.isOther c = true := fun hc => (isOther_iff.1 hc).1 hid
      rw [if_neg hother] at htail
      rw [List.filter_cons_of_neg (by simpa using hid), List.filter_cons_of_neg hother]
      exact htail
    · rw [List.filter_cons_of_pos (by simpa using hid), List.foldl_cons]
      by_cases haddr : c.addr = q.localAddr
      · have hother : ¬q.isOther c = true := fun hc => (isOther_iff.1 hc).2 haddr
        rw [if_neg hother] at htail
        rw [List.filter_cons_of_neg hother, addContact_of_mem ((hfirst haddr).resolve_left hid)]
        exact htail
      · have hother := isOther_iff.2 ⟨hid, haddr⟩
        rw [if_pos hother] at htail
        rw [List.filter_cons_of_pos hother, List.foldl_cons]
        exact htail

/-- Where `lookup_value` adds nobody with the own address, whoever was named with it was known. -/
theorem AllOther.ownKnown (h : AllOther q ((contacts.filter fun c => c.id ≠ q.localId).foldl q.addContact shortlist)) :
    OwnKnown q shortlist contacts := by
  induction contacts generalizing shortlist with
  | nil =>
    rintro before c after heq
    exact absurd heq (by simp)
  | cons c contacts ih =>
    rw [ownKnown_cons]
    by_cases hid : c.id = q.localId
    · have hother : ¬q.isOther c = true := fun hc => (isOther_iff.1 hc).1 hid
      rw [if_neg hother]
      rw [List.filter_cons_of_neg (by simpa using hid)] at h
      exact ⟨fun _ => .inl hid, ih h⟩
    · rw [List.filter_cons_of_pos (by simpa using hid), List.foldl_cons] at h
      by_cases haddr : c.addr = q.localAddr
      · have hmem : c.id ∈ shortlist.map fun k => k.contact.id := by
          by_contra hnot
          exact h _ (subset_foldl_addContact (mem_addContact_of_not_mem hnot)) haddr
        have hother : ¬q.isOther c = true := fun hc => (isOther_iff.1 hc).2 haddr
        rw [if_neg hother]
        rw [addContact_of_mem hmem] at h
        exact ⟨fun _ => .inr hmem, ih h⟩
      · rw [if_pos (isOther_iff.2 ⟨hid, haddr⟩)]
        exact ⟨fun hown => absurd hown haddr, ih h⟩

end Added

/-! ## Round by round -/

namespace LookupRun

variable {q : Lookup} {peers : Peers} {t : RoutingTable} {n : ℕ} {r r' : LookupRun}

/-- Whom the next round calls. -/
def queries (r : LookupRun) : List Contact := if r.ended then [] else (pick alpha r.state.shortlist).2

/-- The lookup after `n` rounds. -/
def rounds (q : Lookup) (kind : LookupKind) (peers : Peers) (t : RoutingTable) : ℕ → LookupRun
  | 0 => start q t
  | n + 1 =>
    let r := rounds q kind peers t n
    step q kind r (peers kind n r.queries)

/-- The same calls in every round, none to the own address, and the same contacts in the end. -/
structure Agree (q : Lookup) (peers : Peers) (t : RoutingTable) : Prop where
  queries : ∀ n, (rounds q .nodes peers t n).queries = (rounds q .value peers t n).queries
  ended : ∀ n, (rounds q .nodes peers t n).ended = (rounds q .value peers t n).ended
  result : ∀ n, (rounds q .value peers t n).found = none ∧
    (rounds q .nodes peers t n).state.result = (rounds q .value peers t n).state.result
  own : ∀ kind n, ∀ c ∈ (rounds q kind peers t n).queries, c.addr ≠ q.localAddr

/-- In this round, whoever is named with the own address has the own id, or one that is on the shortlist by then. -/
def OwnKnownAt (q : Lookup) (peers : Peers) (t : RoutingTable) (n : ℕ) : Prop :=
  (rounds q .nodes peers t n).ended = false →
    OwnKnown q (rounds q .nodes peers t n).state.shortlist
      ((peers .nodes n (rounds q .nodes peers t n).queries).flatMap (named .nodes))

/-- Two lookups that go on alike. -/
structure Same (r r' : LookupRun) : Prop where
  shortlist : r.state.shortlist = r'.state.shortlist
  stopped : r.state.stopped = r'.state.stopped
  found : r.found = none
  found' : r'.found = none

theorem Same.ended (h : Same r r') : r.ended = r'.ended := by
  unfold LookupRun.ended LookupState.returned
  rw [h.found, h.found', h.stopped, h.shortlist]

theorem Same.queries (h : Same r r') : r.queries = r'.queries := by
  unfold LookupRun.queries
  rw [h.ended, h.shortlist]

theorem Same.result (h : Same r r') : r.state.result = r'.state.result := by
  unfold LookupState.result
  rw [h.shortlist]

theorem flatMap_resultContacts (q : Lookup) (results : List CallResult) :
    results.flatMap (q.contactsOf .nodes) = (results.flatMap (named .nodes)).filter q.isOther := by
  rw [List.filter_flatMap]
  exact List.flatMap_congr fun r _ => resultContacts_eq q r

theorem flatMap_valueContacts (q : Lookup) (results : List CallResult) :
    results.flatMap (q.contactsOf .value) = (results.flatMap (named .value)).filter fun c => c.id ≠ q.localId := by
  rw [List.filter_flatMap]
  exact List.flatMap_congr fun r _ => valueContacts_eq q r

theorem step_of_ended (kind : LookupKind) (results : List CallResult) (h : r.ended = true) :
    step q kind r results = r := if_pos h

theorem step_of_found?_eq_none {kind : LookupKind} {results : List CallResult} (h : r.ended = false)
    (hnone : found? kind results = none) : step q kind r results =
      { r with calls := r.calls ++ (pick alpha r.state.shortlist).2
               state := q.hopWith (q.contactsOf kind) r.state results } := by
  unfold step
  rw [if_neg (Bool.eq_false_iff.1 h), hnone]

/-- What a round knows of is there by its ids. -/
theorem ownKnown_congr {shortlist shortlist' : List Candidate} {contacts : List Contact}
    (hids : shortlist.map (fun k => k.contact.id) = shortlist'.map fun k => k.contact.id) :
    OwnKnown q shortlist contacts ↔ OwnKnown q shortlist' contacts := by
  unfold OwnKnown
  rw [hids]

/-- One round: the two go on alike exactly if whoever is named with the own address is known. -/
theorem Same.step_iff (h : Same r r') (hother : AllOther q r.state.shortlist) {results results' : List CallResult}
    (hresults : List.Forall₂ SameAnswer results results') :
    Same (step q .nodes r results) (step q .value r' results') ↔
      (r.ended = false → OwnKnown q r.state.shortlist (results.flatMap (named .nodes))) := by
  cases hended : r.ended with
  | true =>
    rw [step_of_ended .nodes results hended, step_of_ended .value results' (h.ended ▸ hended)]
    exact ⟨fun _ hfalse => absurd hfalse Bool.true_eq_false.mp, fun _ => h⟩
  | false =>
    rw [step_of_found?_eq_none hended rfl, step_of_found?_eq_none (h.ended ▸ hended) (found?_eq_none hresults)]
    have hids : (results.foldl Lookup.handleResult (pick alpha r.state.shortlist).1).map (fun k => k.contact.id) =
        r.state.shortlist.map fun k => k.contact.id := by rw [ids_foldl_handleResult, ids_pick]
    rw [← ownKnown_congr hids]
    have hmarked : r'.state.shortlist = r.state.shortlist := h.shortlist.symm
    have hhandled := foldl_handleResult_eq hresults (pick alpha r.state.shortlist).1
    constructor
    · intro hsame _
      have hshort := hsame.shortlist
      simp only [Lookup.hopWith, flatMap_resultContacts, flatMap_valueContacts, hmarked, ← hhandled,
        ← flatMap_named_eq hresults] at hshort
      refine AllOther.ownKnown fun k hk => ?_
      rw [← mem_sortByKey Candidate.distance, ← hshort, mem_sortByKey] at hk
      exact (hother.pick alpha).foldl_handleResult.foldl_addContact k hk
    · intro hknown
      have hadded := (hknown rfl).foldl_eq
      have hshort : (q.hopWith (q.contactsOf .nodes) r.state results).shortlist =
          (q.hopWith (q.contactsOf .value) r'.state results').shortlist := by
        simp only [Lookup.hopWith, flatMap_resultContacts, flatMap_valueContacts, hmarked, ← hhandled,
          ← flatMap_named_eq hresults, hadded]
      exact ⟨hshort, congrArg topQueried hshort, h.found, h.found'⟩

theorem allOther_step_nodes (hother : AllOther q r.state.shortlist) (results : List CallResult) :
    AllOther q (step q .nodes r results).state.shortlist := by
  cases hended : r.ended with
  | true =>
    rw [step_of_ended .nodes results hended]
    exact hother
  | false =>
    rw [step_of_found?_eq_none hended rfl]
    intro k hk
    simp only [Lookup.hopWith, flatMap_resultContacts, mem_sortByKey] at hk
    exact (hother.pick alpha).foldl_handleResult.foldl_addContact k hk

theorem allOther_rounds (q : Lookup) (peers : Peers) (t : RoutingTable) (n : ℕ) :
    AllOther q (rounds q .nodes peers t n).state.shortlist := by
  induction n with
  | zero =>
    intro k hk
    obtain ⟨c, hc, rfl⟩ := List.mem_map.1 ((mem_sortByKey _).1 hk)
    exact (isOther_iff.1 (List.mem_filter.1 hc).2).2
  | succ n ih => exact allOther_step_nodes ih _

/-- Nobody with the own address is called by a lookup that has nobody with it on the shortlist. -/
theorem addr_ne_of_mem_queries (hother : AllOther q r.state.shortlist) : ∀ c ∈ r.queries, c.addr ≠ q.localAddr := by
  intro c hc
  unfold queries at hc
  split at hc
  · cases hc
  · obtain ⟨⟨k, hk, rfl, -⟩, -⟩ := mem_picked hc
    exact hother k hk

/-- After `n` rounds the two are alike exactly if in all rounds before whoever was named with the own address was
known. -/
theorem same_rounds_iff (hpeers : peers.Alike) (n : ℕ) :
    (∀ m ≤ n, Same (rounds q .nodes peers t m) (rounds q .value peers t m)) ↔ ∀ m < n, OwnKnownAt q peers t m := by
  induction n with
  | zero =>
    refine ⟨fun _ m hm => absurd hm (Nat.not_lt_zero m), fun _ m hm => ?_⟩
    rw [Nat.le_zero.1 hm]
    exact ⟨rfl, rfl, rfl, rfl⟩
  | succ n ih =>
    have hstep : Same (rounds q .nodes peers t n) (rounds q .value peers t n) →
        (Same (rounds q .nodes peers t (n + 1)) (rounds q .value peers t (n + 1)) ↔ OwnKnownAt q peers t n) := by
      intro hsame
      show Same (step q .nodes _ (peers .nodes n (rounds q .nodes peers t n).queries))
        (step q .value _ (peers .value n (rounds q .value peers t n).queries)) ↔ _
      rw [← hsame.queries]
      exact hsame.step_iff (allOther_rounds q peers t n) (hpeers.same n _)
    constructor
    · intro h m hm
      rcases Nat.lt_succ_iff_lt_or_eq.1 hm with hm | rfl
      · exact ih.1 (fun k hk => h k (Nat.le_succ_of_le hk)) m hm
      · exact (hstep (h m (Nat.le_succ m))).1 (h (m + 1) le_rfl)
    · intro h m hm
      have hbefore := ih.2 fun k hk => h k (Nat.lt_succ_of_lt hk)
      rcases Nat.le_succ_iff.1 hm with hm | rfl
      · exact hbefore m hm
      · exact (hstep (hbefore n le_rfl)).2 (h n (Nat.lt_succ_self n))

/-- Lookups with the same shortlist in every round are alike in every round. -/
theorem same_of_shortlist (hpeers : peers.Alike)
    (h : ∀ n, (rounds q .nodes peers t n).state.shortlist = (rounds q .value peers t n).state.shortlist) (n : ℕ) :
    Same (rounds q .nodes peers t n) (rounds q .value peers t n) := by
  induction n with
  | zero => exact ⟨rfl, rfl, rfl, rfl⟩
  | succ n ih =>
    have hnext := h (n + 1)
    have hresults := hpeers.same n (rounds q .nodes peers t n).queries
    unfold rounds at hnext ⊢
    dsimp only at hnext ⊢
    rw [← ih.queries] at hnext ⊢
    cases hended : (rounds q .nodes peers t n).ended with
    | true =>
      rw [step_of_ended .nodes _ hended, step_of_ended .value _ (ih.ended ▸ hended)]
      exact ih
    | false =>
      rw [step_of_found?_eq_none hended rfl, step_of_found?_eq_none (ih.ended ▸ hended) (found?_eq_none hresults)]
        at hnext ⊢
      exact ⟨hnext, congrArg topQueried hnext, ih.found, ih.found'⟩

/-- Against peers that name the same contacts to both and have no value, `lookup_value` makes the calls of
`lookup_nodes` round by round, and returns what it returns, as long as whoever is named with the node's own address has
the own id or one that is on the shortlist. The shortlists are the same in every round exactly then. -/
theorem lookups_agree (hpeers : peers.Alike) :
    ((∀ n, OwnKnownAt q peers t n) → Agree q peers t) ∧
      ((∀ n, OwnKnownAt q peers t n) ↔
        ∀ n, (rounds q .nodes peers t n).state.shortlist = (rounds q .value peers t n).state.shortlist) := by
  have hsame : (∀ n, OwnKnownAt q peers t n) → ∀ n, Same (rounds q .nodes peers t n) (rounds q .value peers t n) :=
    fun h n => (same_rounds_iff hpeers n).2 (fun m _ => h m) n le_rfl
  refine ⟨fun h => ?_, fun h n => (hsame h n).shortlist, fun h n => ?_⟩
  · have hother : ∀ kind n, AllOther q (rounds q kind peers t n).state.shortlist := by
      intro kind n
      cases kind with
      | nodes => exact allOther_rounds q peers t n
      | value => exact (hsame h n).shortlist ▸ allOther_rounds q peers t n
    exact
      { queries := fun n => (hsame h n).queries
        ended := fun n => (hsame h n).ended
        result := fun n => ⟨(hsame h n).found', (hsame h n).result⟩
        own := fun kind n => addr_ne_of_mem_queries (hother kind n) }
  · exact (same_rounds_iff hpeers (n + 1)).1 (fun m _ => same_of_shortlist hpeers h m) n (Nat.lt_succ_self n)

namespace Naming

/-- Each peer names these contacts, whoever asks. -/
def naming (contacts : List Contact) : Peers := fun kind _ calls =>
  calls.map fun c => (c, .ok { requestId := 0, senderId := c.id
                               payload := match kind with
                                 | .nodes => .findNodeResp contacts
                                 | .value => .findValueResp none contacts })

theorem alike_naming (contacts : List Contact) : (naming contacts).Alike where
  complete kind n calls := by
    unfold naming
    rw [List.map_map]
    exact .of_eq (List.map_id calls)
  same n calls := by
    unfold naming
    rw [List.forall₂_map_left_iff, List.forall₂_map_right_iff, List.forall₂_same]
    exact fun c _ => ⟨rfl, rfl, rfl, rfl⟩

/-- A contact with an id of its own and the address of the node. -/
def mirror : Contact := { RoutingTable.farContact 5 with addr := LookupState.Sample.search.localAddr }

end Naming

open Naming LookupState.Sample in
theorem lookups_agree_two : Agree search (naming []) (known 2) := by
  refine (lookups_agree (alike_naming [])).1 fun n _ before c after heq => ?_
  have hnone : ∀ calls, ((naming [] .nodes n calls).flatMap (named .nodes)) = [] := by
    intro calls
    unfold naming
    rw [List.flatMap_map]
    exact List.flatMap_eq_nil_iff.2 fun _ _ => rfl
  rw [hnone] at heq
  exact absurd heq (by simp)

open Naming LookupState.Sample in
/-- Somebody names a contact with an id of its own and the address of the node: `lookup_value` calls it. -/
theorem lookups_disagree_own : ¬∀ (q : Lookup) (peers : Peers) (t : RoutingTable), peers.Alike → Agree q peers t := by
  intro h
  have hcalled : mirror ∈ (rounds search .value (naming [mirror]) (known 2) 1).queries := by decide +kernel
  exact (h search (naming [mirror]) (known 2) (alike_naming [mirror])).own .value 1 mirror hcalled rfl

end LookupRun

end NodeX.Kad
